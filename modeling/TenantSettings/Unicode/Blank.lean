import TenantSettings.Unicode.Span

/-!
# White space

The characters with the property White_Space, and text without them at its ends.

* `trim_surrounded`: white space around a text that has none inside is all that is taken away.
-/

namespace TenantSettings.Unicode

/-- The code points with the property White_Space. -/
def whiteSpaceSpans : List Span :=
  [⟨0x9, 0xD, 1⟩, ⟨0x20, 0x20, 1⟩, ⟨0x85, 0x85, 1⟩, ⟨0xA0, 0xA0, 1⟩, ⟨0x1680, 0x1680, 1⟩,
   ⟨0x2000, 0x200A, 1⟩, ⟨0x2028, 0x2029, 1⟩, ⟨0x202F, 0x202F, 1⟩, ⟨0x205F, 0x205F, 1⟩,
   ⟨0x3000, 0x3000, 1⟩]

/-- Whether a character is white space. -/
def isWhiteSpace (c : Char) : Bool := member whiteSpaceSpans c

/-- A text without the white space at both of its ends. -/
def trimChars (cs : List Char) : List Char :=
  ((cs.dropWhile isWhiteSpace).reverse.dropWhile isWhiteSpace).reverse

/-- A text without the white space at both of its ends. -/
def trim (s : String) : String := String.ofList (trimChars s.toList)

/-- Whether nothing is left of a text once white space is taken away. -/
def isBlank (s : String) : Bool := s.toList.all isWhiteSpace

/-- Nothing is dropped from a text without white space. -/
theorem dropWhile_isWhiteSpace {cs : List Char} (h : ∀ c ∈ cs, isWhiteSpace c = false) :
    cs.dropWhile isWhiteSpace = cs := by
  cases cs with
  | nil => rfl
  | cons c cs => rw [List.dropWhile_cons_of_neg (by simp [h c])]

/-- White space around characters of which none is white space is all that is taken away. -/
theorem trimChars_surrounded {before cs after : List Char}
    (hb : ∀ c ∈ before, isWhiteSpace c = true) (hc : ∀ c ∈ cs, isWhiteSpace c = false)
    (ha : ∀ c ∈ after, isWhiteSpace c = true) : trimChars (before ++ cs ++ after) = cs := by
  have back : ∀ c ∈ after.reverse, isWhiteSpace c = true := fun c h => ha c (List.mem_reverse.mp h)
  have inner : ∀ c ∈ cs.reverse, isWhiteSpace c = false := fun c h => hc c (List.mem_reverse.mp h)
  rw [trimChars, List.append_assoc, List.dropWhile_append_of_pos hb]
  cases cs with
  | nil =>
    have gone : (after ++ []).dropWhile isWhiteSpace = [] := List.dropWhile_append_of_pos ha
    rw [List.nil_append, ← List.append_nil after, gone]
    rfl
  | cons c cs =>
    have kept : (c :: cs ++ after).dropWhile isWhiteSpace = c :: cs ++ after :=
      List.dropWhile_cons_of_neg (by simp [hc c])
    rw [kept, List.reverse_append, List.dropWhile_append_of_pos back, dropWhile_isWhiteSpace inner,
      List.reverse_reverse]

/-- White space around a text that has none inside is all that is taken away. -/
theorem trim_surrounded {before s after : String}
    (hb : ∀ c ∈ before.toList, isWhiteSpace c = true)
    (hs : ∀ c ∈ s.toList, isWhiteSpace c = false)
    (ha : ∀ c ∈ after.toList, isWhiteSpace c = true) : trim (before ++ s ++ after) = s := by
  rw [trim, String.toList_append, String.toList_append, trimChars_surrounded hb hs ha,
    String.ofList_toList]

end TenantSettings.Unicode

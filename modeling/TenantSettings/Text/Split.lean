/-!
# Splitting and joining character sequences

* `join_split`: the parts of a text, joined by the separator again, are the text.
* `length_split`: there is one part more than there are separators.
-/

namespace TenantSettings.Text

/-- The parts of a text between the characters that satisfy `p`; a text always has a part, and
parts may be empty. -/
def split (p : Char → Bool) : List Char → List (List Char)
  | [] => [[]]
  | c :: cs =>
    if p c then [] :: split p cs
    else match split p cs with
      | [] => [[c]]
      | part :: parts => (c :: part) :: parts

/-- The parts that are not empty. -/
def segments (p : Char → Bool) (cs : List Char) : List (List Char) :=
  (split p cs).filter (!·.isEmpty)

/-- Parts with a separator between them. -/
def join (separator : List Char) : List (List Char) → List Char
  | [] => []
  | [part] => part
  | part :: next :: parts => part ++ separator ++ join separator (next :: parts)

/-- Texts with a separator between them. -/
def joinWith (separator : String) (parts : List String) : String :=
  String.ofList (join separator.toList (parts.map String.toList))

/-- The text before the first occurrence of a character and the text after it. -/
def splitOnce (c : Char) : List Char → Option (List Char × List Char)
  | [] => none
  | d :: cs =>
    if d = c then some ([], cs)
    else (splitOnce c cs).map fun (before, after) => (d :: before, after)

/-- What follows the first occurrence of a word, and what stands before it. -/
def splitAtWord (word : List Char) : List Char → Option (List Char × List Char)
  | [] => if word = [] then some ([], []) else none
  | c :: cs =>
    if word.isPrefixOf (c :: cs) then some ([], (c :: cs).drop word.length)
    else (splitAtWord word cs).map fun (before, after) => (c :: before, after)

/-- A text with every occurrence of a word, taken from the left, replaced; `fuel` bounds the number
of steps. -/
def replaceFrom (word replacement : List Char) : Nat → List Char → List Char
  | 0, cs => cs
  | _, [] => []
  | fuel + 1, c :: cs =>
    if word ≠ [] ∧ word.isPrefixOf (c :: cs) then
      replacement ++ replaceFrom word replacement fuel ((c :: cs).drop word.length)
    else c :: replaceFrom word replacement fuel cs

/-- A text with every occurrence of a word replaced. -/
def replaceWord (word replacement cs : List Char) : List Char :=
  replaceFrom word replacement cs.length cs

theorem split_ne_nil (p : Char → Bool) (cs : List Char) : split p cs ≠ [] := by
  cases cs with
  | nil => simp [split]
  | cons c cs =>
    rw [split]
    split
    · simp
    · split <;> simp

/-- There is one part more than there are separators. -/
theorem length_split (p : Char → Bool) (cs : List Char) :
    (split p cs).length = cs.countP p + 1 := by
  induction cs with
  | nil => rfl
  | cons c cs ih =>
    rw [split]
    split
    · next h => simp [ih, h]
    · next h =>
      split
      · next h' => exact absurd h' (split_ne_nil p cs)
      · next h' => simp [h'] at ih; simp [ih, h]

/-- The parts of a text, joined by the separator again, are the text. -/
theorem join_split (c : Char) (cs : List Char) : join [c] (split (· == c) cs) = cs := by
  induction cs with
  | nil => rfl
  | cons d cs ih =>
    rw [split]
    cases hs : split (· == c) cs with
    | nil => exact absurd hs (split_ne_nil _ cs)
    | cons part parts =>
      rw [hs] at ih
      by_cases h : d = c
      · simp [h, join, ih]
      · cases parts <;> simp_all [join]

end TenantSettings.Text

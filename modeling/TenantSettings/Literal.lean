/-!
# Types with literals

A finite type whose values are stored under fixed words, and the way back from a word.  The words
that the values of a choice are stored under may follow from their names; they are read back by
themselves.

* `Literal.ofText?_text`: a value is found by its own word, where the words differ.
* `Worded.ofWord?`: the value that is stored under a word.
-/

namespace TenantSettings

/-- A finite type whose values are written as fixed words. -/
class Literal (α : Type) where
  all : List α
  text : α → String

namespace Literal

/-- The value that a word stands for; the match is exact. -/
def ofText? {α : Type} [Literal α] (word : String) : Option α :=
  (all : List α).find? fun a => text a == word

/-- A value is found by its own word, where the words differ. -/
theorem ofText?_text {α : Type} [Literal α] {a : α} (mem : a ∈ (all : List α))
    (distinct : ((all : List α).map text).Nodup) : ofText? (text a) = some a := by
  unfold ofText?
  revert mem distinct
  generalize (all : List α) = l
  intro mem distinct
  induction l with
  | nil => simp at mem
  | cons b rest ih =>
    rw [List.map_cons, List.nodup_cons] at distinct
    rcases List.mem_cons.1 mem with rfl | later
    · simp
    · have other : text b ≠ text a := fun same => distinct.1 (same ▸ List.mem_map_of_mem later)
      rw [List.find?_cons_of_neg (by simpa using other)]
      exact ih later distinct.2

/-- A value that is found has the word that it was found by. -/
theorem text_of_ofText? {α : Type} [Literal α] {word : String} {a : α}
    (found : ofText? word = some a) : text a = word := by
  simpa using List.find?_some found

end Literal

/-- A type with literals whose values are stored under words. Unless other words are given they are
the literals. -/
class Worded (α : Type) extends Literal α where
  word : α → String := text

namespace Worded

/-- The word that is made of a name in parts that begin with a capital: all in capitals, with an
underscore between the parts. -/
def capitals (name : String) : String :=
  match name.toList with
  | [] => ""
  | c :: rest => String.ofList <|
    c.toUpper :: rest.flatMap fun d => if d.isUpper then ['_', d.toUpper] else [d.toUpper]

/-- The value that is stored under a word; the match is exact. -/
def ofWord? {α : Type} [Worded α] (w : String) : Option α :=
  (Literal.all : List α).find? fun a => word a == w

end Worded

end TenantSettings

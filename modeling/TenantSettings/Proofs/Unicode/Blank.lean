import Mathlib.Data.List.DropRight
import Mathlib.Tactic.Lemma
import TenantSettings.Unicode.Blank

/-!
# Texts without white space at their ends

* `Trimmed`: neither end of a text is white space; so it is with what trimming leaves
  (`trimmed_trimChars`), and exactly such texts are left as they are (`trimChars_eq_self_iff`).
* `countP_trimChars`: trimming takes nothing but white space away.
-/

namespace TenantSettings.Unicode

/-- Neither end of a text is white space. -/
structure Trimmed (cs : List Char) : Prop where
  front : ∀ c ∈ cs.head?, isWhiteSpace c = false
  back : ∀ c ∈ cs.getLast?, isWhiteSpace c = false

lemma trimChars_eq_rdropWhile (cs : List Char) :
    trimChars cs = (cs.dropWhile isWhiteSpace).rdropWhile isWhiteSpace := rfl

/-- No white space is at the ends of what trimming leaves. -/
lemma trimmed_trimChars (cs : List Char) : Trimmed (trimChars cs) := by
  rw [trimChars_eq_rdropWhile]
  refine ⟨fun c hc => ?_, fun c hc => ?_⟩
  · obtain ⟨rest, whole⟩ := List.rdropWhile_prefix isWhiteSpace (cs.dropWhile isWhiteSpace)
    have first : (cs.dropWhile isWhiteSpace).head? = some c := by
      rw [← whole, List.head?_append, Option.mem_def.mp hc, Option.some_or]
    have dark := List.head?_dropWhile_not isWhiteSpace cs
    rwa [first] at dark
  · have more : (cs.dropWhile isWhiteSpace).rdropWhile isWhiteSpace ≠ [] := by
      rintro bare
      rw [bare] at hc
      cases hc
    rw [List.getLast?_eq_some_getLast more, Option.mem_some_iff] at hc
    rw [← hc]
    exact Bool.eq_false_iff.mpr (List.rdropWhile_last_not _ _ more)

/-- Exactly the texts without white space at their ends are left as they are. -/
lemma trimChars_eq_self_iff {cs : List Char} : trimChars cs = cs ↔ Trimmed cs := by
  refine ⟨fun same => same ▸ trimmed_trimChars cs, fun ends => ?_⟩
  have front : cs.dropWhile isWhiteSpace = cs := by
    cases cs with
    | nil => rfl
    | cons c cs => rw [List.dropWhile_cons_of_neg (by simp [ends.front c rfl])]
  rw [trimChars_eq_rdropWhile, front, List.rdropWhile_eq_self_iff]
  intro more
  rw [ends.back _ (List.getLast?_eq_some_getLast more)]
  exact Bool.false_ne_true

/-- Nothing is left of white space alone. -/
lemma trimChars_eq_nil_iff {cs : List Char} :
    trimChars cs = [] ↔ ∀ c ∈ cs, isWhiteSpace c = true := by
  rw [trimChars_eq_rdropWhile, List.rdropWhile_eq_nil_iff]
  refine ⟨fun behind c mem => ?_, fun all c mem => all c (List.dropWhile_subset _ mem)⟩
  rw [← List.takeWhile_append_dropWhile (p := isWhiteSpace) (l := cs)] at mem
  rcases List.mem_append.mp mem with front | back
  · exact List.mem_takeWhile_imp front
  · exact behind c back

lemma mem_of_mem_trimChars {c : Char} {cs : List Char} (mem : c ∈ trimChars cs) : c ∈ cs :=
  List.dropWhile_subset _ ((List.rdropWhile_prefix isWhiteSpace _).subset mem)

/-- Trimming takes nothing away of a class without white space. -/
lemma countP_trimChars {p : Char → Bool} (dark : ∀ c, p c = true → isWhiteSpace c = false)
    (cs : List Char) : (trimChars cs).countP p = cs.countP p := by
  have front (ds : List Char) : (ds.dropWhile isWhiteSpace).countP p = ds.countP p := by
    induction ds with
    | nil => rfl
    | cons d ds ih =>
        by_cases white : isWhiteSpace d = true
        · have out : p d = false := by
            by_contra inside
            rw [dark d (Bool.not_eq_false _ ▸ inside)] at white
            cases white
          rw [List.dropWhile_cons_of_pos white, ih, List.countP_cons_of_neg (by simp [out])]
        · rw [List.dropWhile_cons_of_neg white]
  rw [trimChars, List.countP_reverse, front, List.countP_reverse, front]

end TenantSettings.Unicode

import Mathlib.Data.List.Forall2
import Mathlib.Tactic.Lemma

/-!
# Tables of what may fail

What comes of each member of a list, where each may fail and the first that does refuses all.

* `tabulate`: the members of a list, each next to what comes of it; `mapM_eq_tabulate`: without the
  members.
* `rows_of_tabulate`: the rows of a table; `firstFailure_of_tabulate`: why there is none.
* `exists_tabulate_eq_error_iff`: there is none exactly if some member fails.
* `mapM_eq_ok_iff`, `mapM_eq_error_iff`: what comes of all members, or the first failure.
-/

namespace TenantSettings

variable {α β ε : Type} {f : α → Except ε β} {l : List α}

/-- What comes of each member of a list, next to the member; the first that fails refuses all. -/
def tabulate (f : α → Except ε β) (l : List α) : Except ε (List (α × β)) :=
  l.mapM fun a => (f a).map (Prod.mk a)

lemma tabulate_cons (a : α) (rest : List α) :
    tabulate f (a :: rest)
      = (f a).bind fun v => (tabulate f rest).map fun table => (a, v) :: table := by
  rw [tabulate, List.mapM_cons]
  cases f a with
  | error e => rfl
  | ok v => exact bind_pure_comp (fun table => (a, v) :: table) (tabulate f rest)

/-- The first row of a table, and the rest. -/
lemma rows_of_tabulate_cons {a : α} {rest : List α} {table : List (α × β)}
    (done : tabulate f (a :: rest) = .ok table) :
    ∃ v rows, f a = .ok v ∧ tabulate f rest = .ok rows ∧ (a, v) :: rows = table := by
  rw [tabulate_cons] at done
  cases first : f a with
  | error e =>
      rw [first] at done
      cases done
  | ok v =>
      cases later : tabulate f rest with
      | error e =>
          rw [first, later] at done
          cases done
      | ok rows =>
          rw [first, later] at done
          exact ⟨v, rows, rfl, rfl, Except.ok.inj done⟩

/-- A table is refused for its first row, or else for the rest. -/
lemma refused_of_tabulate_cons {a : α} {rest : List α} {e : ε}
    (refused : tabulate f (a :: rest) = .error e) :
    f a = .error e ∨ (∃ v, f a = .ok v) ∧ tabulate f rest = .error e := by
  rw [tabulate_cons] at refused
  cases first : f a with
  | error e' =>
      rw [first] at refused
      exact .inl (congrArg Except.error (Except.error.inj refused))
  | ok v =>
      cases later : tabulate f rest with
      | ok rows =>
          rw [first, later] at refused
          cases refused
      | error e' =>
          rw [first, later] at refused
          exact .inr ⟨⟨v, rfl⟩, congrArg Except.error (Except.error.inj refused)⟩

/-- A table that is complete has a row for each member, with what comes of it. -/
lemma rows_of_tabulate {table : List (α × β)} (done : tabulate f l = .ok table) :
    table.map Prod.fst = l ∧ ∀ row ∈ table, f row.1 = .ok row.2 := by
  induction l generalizing table with
  | nil =>
      obtain rfl : [] = table := Except.ok.inj done
      exact ⟨rfl, by simp⟩
  | cons a rest ih =>
      obtain ⟨v, rows, first, later, rfl⟩ := rows_of_tabulate_cons done
      obtain ⟨members, values⟩ := ih later
      refine ⟨by rw [List.map_cons, members], fun row mem => ?_⟩
      rcases List.mem_cons.mp mem with rfl | below
      · exact first
      · exact values row below

/-- Every member of the list succeeds up to one that fails with the error. -/
def FirstFailure (f : α → Except ε β) (l : List α) (e : ε) : Prop :=
  ∃ before a after, l = before ++ a :: after ∧ (∀ b ∈ before, ∃ v, f b = .ok v) ∧ f a = .error e

/-- A table that is refused is refused for the first failure. -/
lemma firstFailure_of_tabulate {e : ε} (refused : tabulate f l = .error e) :
    FirstFailure f l e := by
  induction l with
  | nil => cases refused
  | cons a rest ih =>
      rcases refused_of_tabulate_cons refused with first | ⟨fine, later⟩
      · exact ⟨[], a, rest, rfl, by simp, first⟩
      · obtain ⟨before, b, after, rfl, early, broken⟩ := ih later
        refine ⟨a :: before, b, after, rfl, fun c mem => ?_, broken⟩
        rcases List.mem_cons.mp mem with rfl | among
        · exact fine
        · exact early c among

/-- A list is refused exactly if one of its members is. -/
lemma exists_tabulate_eq_error_iff :
    (∃ e, tabulate f l = .error e) ↔ ∃ a ∈ l, ∃ e, f a = .error e := by
  constructor
  · rintro ⟨e, refused⟩
    obtain ⟨before, a, after, rfl, -, broken⟩ := firstFailure_of_tabulate refused
    exact ⟨a, List.mem_append_right before List.mem_cons_self, e, broken⟩
  · rintro ⟨a, mem, e, broken⟩
    cases listed : tabulate f l with
    | error e' => exact ⟨e', rfl⟩
    | ok table =>
        obtain ⟨members, values⟩ := rows_of_tabulate listed
        rw [← members] at mem
        obtain ⟨row, among, rfl⟩ := List.mem_map.mp mem
        rw [values row among] at broken
        cases broken

/-- What comes of the members is the second column of their table. -/
lemma mapM_eq_tabulate (f : α → Except ε β) (l : List α) :
    l.mapM f = (tabulate f l).map (List.map Prod.snd) := by
  induction l with
  | nil => rfl
  | cons a rest ih =>
      rw [List.mapM_cons, tabulate_cons, ih]
      cases f a with
      | error e => rfl
      | ok v => cases tabulate f rest <;> rfl

/-- All members succeed exactly if each does. -/
lemma mapM_eq_ok_iff {bs : List β} :
    l.mapM f = .ok bs ↔ List.Forall₂ (fun a b => f a = .ok b) l bs := by
  constructor
  · intro done
    rw [mapM_eq_tabulate] at done
    cases listed : tabulate f l with
    | error e =>
        rw [listed] at done
        cases done
    | ok table =>
        rw [listed] at done
        obtain rfl : table.map Prod.snd = bs := Except.ok.inj done
        obtain ⟨members, values⟩ := rows_of_tabulate listed
        rw [← members, List.forall₂_map_left_iff, List.forall₂_map_right_iff, List.forall₂_same]
        exact values
  · intro each
    induction each with
    | nil => rfl
    | cons first _ ih =>
        rw [List.mapM_cons, first, ih]
        rfl

/-- They are refused for the first that fails. -/
lemma mapM_eq_error_iff {e : ε} : l.mapM f = .error e ↔ FirstFailure f l e := by
  constructor
  · intro refused
    refine firstFailure_of_tabulate ?_
    rw [mapM_eq_tabulate] at refused
    cases listed : tabulate f l with
    | error e' =>
        rw [listed] at refused
        exact congrArg Except.error (Except.error.inj refused)
    | ok table =>
        rw [listed] at refused
        cases refused
  · rintro ⟨before, a, after, rfl, early, broken⟩
    induction before with
    | nil =>
        rw [List.nil_append, List.mapM_cons, broken]
        rfl
    | cons b before ih =>
        obtain ⟨v, fine⟩ := early b List.mem_cons_self
        rw [List.cons_append, List.mapM_cons, fine,
          ih fun c mem => early c (List.mem_cons_of_mem b mem)]
        rfl

end TenantSettings

import Mathlib.Tactic.Lemma
import TenantSettings.Store.Snapshot

/-!
# Snapshots that are built from steps

A snapshot is only ever made step by step, and only if no step is at fault.  What every faultless
step keeps holds of every snapshot.

* `Snapshot.build_eq_ok_iff`: which steps make which snapshot.
* `Snapshot.build_induction`: an invariant of the steps that are taken is one of what is built.
* `Snapshot.Admitted`: every stored value may be stored for its setting; `Admitted.of_build`, and
  `Admitted.value` for the value that is read.
-/

namespace TenantSettings.Snapshot

/-! ### The steps of a build -/

/-- A value outside of all profiles is stored without fault exactly if its setting has no profiles
and admits it. -/
lemma fault?_value_eq_none_iff {x : Setting} {v : StoredValue} :
    (Step.value x v).fault? = none ↔ x.isProfiled = false ∧ x.admits v = true := by
  cases hp : x.isProfiled <;> cases ha : x.admits v <;> simp [Step.fault?, hp, ha]

/-- A value of a profile is stored without fault exactly if its setting has profiles and admits
it. -/
lemma fault?_profileValue_eq_none_iff {x : Setting} {id : String} {v : StoredValue} :
    (Step.profileValue x id v).fault? = none ↔ x.isProfiled = true ∧ x.admits v = true := by
  cases hp : x.isProfiled <;> cases ha : x.admits v <;> simp [Step.fault?, hp, ha]

/-- Steps make a snapshot exactly if none is at fault; it is then what they do one after another. -/
lemma build_eq_ok_iff {steps : List Step} {s : Snapshot} :
    build steps = .ok s ↔ (∀ step ∈ steps, step.fault? = none) ∧ steps.foldl apply empty = s := by
  unfold build
  cases hf : steps.filterMap Step.fault? with
  | nil =>
      have faultless : ∀ step ∈ steps, step.fault? = none := List.filterMap_eq_nil_iff.mp hf
      exact ⟨fun h => ⟨faultless, Except.ok.inj h⟩, fun h => congrArg Except.ok h.2⟩
  | cons fault rest =>
      have faulty : ¬ ∀ step ∈ steps, step.fault? = none := by
        rw [← List.filterMap_eq_nil_iff, hf]
        simp
      simp [faulty]

/-- What holds of the empty snapshot and is kept by every step without fault, of those that are
taken, holds of the snapshot that they build. -/
lemma build_induction {P : Snapshot → Prop} {steps : List Step} {s : Snapshot} (start : P empty)
    (keep : ∀ (s : Snapshot), ∀ step ∈ steps, step.fault? = none → P s → P (s.apply step))
    (built : build steps = .ok s) : P s := by
  obtain ⟨faultless, rfl⟩ := build_eq_ok_iff.mp built
  have run : ∀ s : Snapshot, P s → P (steps.foldl apply s) := by
    clear built
    induction steps with
    | nil => exact fun s hs => hs
    | cons step rest ih =>
        intro s hs
        refine ih (fun s other later => keep s other (List.mem_cons_of_mem step later))
          (fun other later => faultless other (List.mem_cons_of_mem step later)) _ ?_
        exact keep s step List.mem_cons_self (faultless step List.mem_cons_self) hs
  exact run empty start

/-! ### What making a profile known leaves alone -/

@[simp] lemma values_addProfile (s : Snapshot) (c : Category) (id : String) :
    (s.addProfile c id).values = s.values := by
  unfold addProfile
  split <;> rfl

@[simp] lemma bundles_addProfile (s : Snapshot) (c : Category) (id : String) :
    (s.addProfile c id).bundles = s.bundles := by
  unfold addProfile
  split <;> rfl

/-! ### Stored values fit their settings -/

/-- Every stored value may be stored for its setting. -/
def Admitted (s : Snapshot) : Prop :=
  ∀ (x : Setting) (profile : Option String) (v : StoredValue),
    s.values.get? (x, profile) = some v → x.admits v = true

namespace Admitted

/-- A value that may be stored does no harm. -/
lemma put {s : Snapshot} (h : s.Admitted) {x : Setting} {v : StoredValue} (hv : x.admits v = true)
    (profile : Option String) : (s.put x profile v).Admitted := by
  intro y scope w hw
  simp only [Snapshot.put, OrderedMap.get?_insert] at hw
  split at hw
  · next same =>
      obtain ⟨rfl, rfl⟩ := Prod.mk.inj same
      rw [← Option.some.inj hw]
      exact hv
  · exact h y scope w hw

/-- Making a profile known stores nothing. -/
lemma addProfile {s : Snapshot} (h : s.Admitted) (c : Category) (id : String) :
    (s.addProfile c id).Admitted := by
  unfold Snapshot.addProfile
  split
  · exact h
  · exact h

/-- Every snapshot that is built holds values that fit their settings. -/
lemma of_build {steps : List Step} {s : Snapshot} (built : build steps = .ok s) : s.Admitted := by
  refine build_induction (fun x profile v hv => by cases hv) (fun s step _ ok h => ?_) built
  cases step with
  | value x v => exact h.put (fault?_value_eq_none_iff.mp ok).2 none
  | profileValue x id v =>
      exact (h.addProfile x.category id).put (fault?_profileValue_eq_none_iff.mp ok).2 (some id)
  | profile c id => exact h.addProfile c id
  | _ => exact h

/-- The value that is read for a setting, stored or default, fits the setting. -/
lemma value {s : Snapshot} (h : s.Admitted) (x : Setting) (profile : Option String) :
    x.admits (s.value x profile) = true := by
  unfold Snapshot.value
  cases hv : s.values.get? (x, profile) with
  | none => simp [Setting.admits, Setting.shape_defaultValue]
  | some v => exact h x profile v hv

end Admitted

end TenantSettings.Snapshot

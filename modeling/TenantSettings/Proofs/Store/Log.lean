import Mathlib.Data.List.Forall2
import TenantSettings.Proofs.OrderedMap
import TenantSettings.Proofs.Store.Build

/-!
# A snapshot and the log of its steps

What a snapshot answers can be read off the steps that built it, without going through the snapshot:
of the steps that wrote a value or the texts of a bundle key the last one counts, and profile ids
stand in the order in which steps first mention them.

* `Step.Fits`: a step that may be taken.
* `Step.written?`, `Step.mentioned?`, `Step.texts?`: what a step contributes to an answer.
* `Snapshot.get?_values_foldl`, `Snapshot.profileIds_foldl`, `Snapshot.get?_bundles_foldl`: what a
  run of steps leaves behind, each from the lemma about one step.
* `Snapshot.build_refines_log`: which steps build a snapshot, what it answers, and what is reported
  of steps that build none.
-/

namespace TenantSettings

namespace Snapshot

/-! ### What a step contributes -/

namespace Step

/-- A step that may be taken: a value is stored for a setting that has profiles or has none, as the
step says, and the setting admits it. -/
def Fits : Step → Prop
  | .value x v => x.isProfiled = false ∧ (x.checkShape v).isOk = true
  | .profileValue x _ v => x.isProfiled = true ∧ (x.checkShape v).isOk = true
  | _ => True

instance : DecidablePred Fits := fun step => by
  cases step <;> dsimp only [Fits] <;> infer_instance

/-- The value that a step writes for a setting under a profile, or outside of all profiles. -/
def written? (x : Setting) (profile : Option String) : Step → Option StoredValue
  | .value y v => if (x, profile) = (y, none) then some v else none
  | .profileValue y id v => if (x, profile) = (y, some id) then some v else none
  | _ => none

/-- The profile id that a step mentions for a category. -/
def mentioned? (c : Category) : Step → Option String
  | .profile d id => if d = c then some id else none
  | .profileValue x id _ => if x.category = c then some id else none
  | _ => none

/-- The texts that a step writes under a key of a bundle. -/
def texts? (b : Bundle) (key : String) : Step → Option (OrderedMap String String)
  | .bundle d k texts => if (b, key) = (d, k) then some (.ofList texts) else none
  | _ => none

/-- A step writes a value in one way outside of profiles and in another under a profile. -/
lemma written?_eq_some_iff {step : Step} {x : Setting} {profile : Option String}
    {v : StoredValue} : step.written? x profile = some v
      ↔ (profile = none ∧ step = .value x v)
        ∨ ∃ id, profile = some id ∧ step = .profileValue x id v := by
  cases step with
  | value y w => simp [written?, and_assoc, eq_comm, and_left_comm]
  | profileValue y id w => simp [written?, and_assoc, eq_comm, and_left_comm]
  | _ => simp [written?]

lemma isOk_checkShape (x : Setting) (v : StoredValue) : (x.checkShape v).isOk = x.admits v := by
  unfold Setting.checkShape
  cases x.admits v <;> rfl

/-- A step may be taken exactly if it is not at fault. -/
lemma fault?_eq_none_iff {step : Step} : step.fault? = none ↔ step.Fits := by
  cases step with
  | value x v => rw [fault?_value_eq_none_iff, Fits, isOk_checkShape]
  | profileValue x id v => rw [fault?_profileValue_eq_none_iff, Fits, isOk_checkShape]
  | _ => exact ⟨fun _ => trivial, fun _ => rfl⟩

end Step

/-- The faults of some steps are those of the steps that may not be taken, one each and in order. -/
lemma forall₂_faults (steps : List Step) :
    List.Forall₂ (fun step fault => step.fault? = some fault)
      (steps.filter fun step => ¬ step.Fits) (steps.filterMap Step.fault?) := by
  induction steps with
  | nil => exact .nil
  | cons step rest ih =>
      cases found : step.fault? with
      | none =>
          have fits : step.Fits := Step.fault?_eq_none_iff.mp found
          rw [List.filter_cons_of_neg (by simpa using fits), List.filterMap_cons_none found]
          exact ih
      | some fault =>
          have misfit : ¬ step.Fits := by simp [← Step.fault?_eq_none_iff, found]
          rw [List.filter_cons_of_pos (by simpa using misfit), List.filterMap_cons_some found]
          exact .cons found ih

/-! ### What is stored -/

/-- A step overwrites the value that it writes and no other. -/
lemma get?_values_apply (s : Snapshot) (step : Step) (x : Setting) (profile : Option String) :
    (s.apply step).values.get? (x, profile)
      = (step.written? x profile).or (s.values.get? (x, profile)) := by
  cases step with
  | value y v =>
      simp only [apply, put, OrderedMap.get?_insert, Step.written?]
      split <;> rfl
  | profileValue y id v =>
      simp only [apply, put, OrderedMap.get?_insert, Step.written?, values_addProfile]
      split <;> rfl
  | profile c id => simp [apply, Step.written?]
  | _ => rfl

/-- What is stored after some steps is what the last of them wrote. -/
lemma get?_values_foldl (steps : List Step) (x : Setting) (profile : Option String) :
    (steps.foldl apply empty).values.get? (x, profile)
      = (steps.filterMap (Step.written? x profile)).getLast? := by
  induction steps using List.reverseRecOn with
  | nil => rfl
  | append_singleton steps step ih =>
      rw [List.foldl_concat, get?_values_apply, ih, List.filterMap_append, List.getLast?_append]
      cases h : step.written? x profile <;> simp [h]

/-- A step overwrites the texts that it writes and no others. -/
lemma get?_bundles_apply (s : Snapshot) (step : Step) (b : Bundle) (key : String) :
    (s.apply step).bundles.get? (b, key)
      = (step.texts? b key).or (s.bundles.get? (b, key)) := by
  cases step with
  | bundle d k texts =>
      simp only [apply, OrderedMap.get?_insert, Step.texts?]
      split <;> rfl
  | profileValue y id v => simp [apply, put, Step.texts?]
  | profile c id => simp [apply, Step.texts?]
  | _ => rfl

/-- The texts after some steps are what the last of them wrote. -/
lemma get?_bundles_foldl (steps : List Step) (b : Bundle) (key : String) :
    (steps.foldl apply empty).bundles.get? (b, key)
      = (steps.filterMap (Step.texts? b key)).getLast? := by
  induction steps using List.reverseRecOn with
  | nil => rfl
  | append_singleton steps step ih =>
      rw [List.foldl_concat, get?_bundles_apply, ih, List.filterMap_append, List.getLast?_append]
      cases h : step.texts? b key <;> simp [h]

/-! ### Profile ids -/

/-- A profile id that is made known is put behind those that are known for its category. -/
lemma profileIds_addProfile (s : Snapshot) (c d : Category) (id : String) :
    (s.addProfile d id).profileIds c
      = if d = c ∧ id ∉ s.profileIds c then s.profileIds c ++ [id] else s.profileIds c := by
  have known : id ∈ s.profileIds c ↔ (c, id) ∈ s.profiles := by simp [profileIds]
  by_cases same : d = c
  · subst same
    by_cases mem : (d, id) ∈ s.profiles
    · simp [addProfile, mem, known]
    · simp [addProfile, mem, profileIds]
  · by_cases mem : (d, id) ∈ s.profiles
    · simp [addProfile, mem, same]
    · simp [addProfile, mem, same, profileIds]

/-- A step that mentions no id for a category leaves its ids alone. -/
lemma profileIds_apply_of_none {step : Step} {c : Category} (h : step.mentioned? c = none)
    (s : Snapshot) : (s.apply step).profileIds c = s.profileIds c := by
  cases step with
  | profile d id =>
      have other : d ≠ c := by simpa [Step.mentioned?] using h
      rw [apply, profileIds_addProfile, if_neg (fun both => other both.1)]
  | profileValue x id v =>
      have other : x.category ≠ c := by simpa [Step.mentioned?] using h
      show (s.addProfile x.category id).profileIds c = _
      rw [profileIds_addProfile, if_neg (fun both => other both.1)]
  | _ => rfl

/-- An id that a step mentions is put behind the others, unless it was mentioned before. -/
lemma profileIds_apply_of_some {step : Step} {c : Category} {id : String}
    (h : step.mentioned? c = some id) (s : Snapshot) :
    (s.apply step).profileIds c
      = if id ∈ s.profileIds c then s.profileIds c else s.profileIds c ++ [id] := by
  have made_known : (s.apply step).profileIds c = (s.addProfile c id).profileIds c := by
    cases step with
    | profile d id' =>
        obtain ⟨rfl, rfl⟩ : d = c ∧ id' = id := by simpa [Step.mentioned?] using h
        rfl
    | profileValue x id' v =>
        obtain ⟨rfl, rfl⟩ : x.category = c ∧ id' = id := by simpa [Step.mentioned?] using h
        rfl
    | _ => cases h
  rw [made_known, profileIds_addProfile]
  by_cases mem : id ∈ s.profileIds c <;> simp [mem]

/-- The ids after some steps are those that the steps mention, each at its first mention. -/
lemma profileIds_foldl (steps : List Step) (c : Category) :
    (steps.foldl apply empty).profileIds c
      = (steps.filterMap (Step.mentioned? c)).eraseDups := by
  induction steps using List.reverseRecOn with
  | nil => rfl
  | append_singleton steps step ih =>
      rw [List.foldl_concat, List.filterMap_append]
      cases h : step.mentioned? c with
      | none => simp [profileIds_apply_of_none h, ih, h]
      | some id =>
          rw [profileIds_apply_of_some h, ih, List.filterMap_cons_some h, List.filterMap_nil,
            eraseDups_concat]
          simp [List.mem_eraseDups]

/-! ### Builds -/

/-- What is reported of steps that build no snapshot are their faults. -/
lemma build_eq_error {steps : List Step} {e : ConfigError} (refused : build steps = .error e) :
    e = .unrecoverable .invalidConfig (.storeFaults (steps.filterMap Step.fault?)) := by
  unfold build at refused
  cases faults : steps.filterMap Step.fault? with
  | nil =>
      rw [faults] at refused
      cases refused
  | cons fault rest =>
      rw [faults] at refused
      exact (Except.error.inj refused).symm

/-- Steps build a snapshot exactly if each of them may be taken.  The snapshot then answers with the
value that was last written for a setting under exactly that profile, or else with the default; with
the ids that were mentioned for a category, each once and in the order of their first mention; and
with the texts that were last written under a key of a bundle, unless they are none.  Steps that
build no snapshot are refused as an invalid configuration, with one problem for each step that may
not be taken, in the order of the steps. -/
theorem build_refines_log (steps : List Step) :
    ((∃ s, build steps = .ok s) ↔ ∀ step ∈ steps, step.Fits)
      ∧ (∀ s, build steps = .ok s →
          (∀ (x : Setting) (profile : Option String), s.store.answer (.value x profile)
            = (steps.filterMap (Step.written? x profile)).getLast?.getD x.defaultValue)
          ∧ (∀ c : Category,
              s.store.answer (.profileIds c) = (steps.filterMap (Step.mentioned? c)).eraseDups
              ∧ (s.store.answer (.profileIds c)).Nodup)
          ∧ ∀ (b : Bundle) (key : String), s.store.answer (.bundle b key)
            = (steps.filterMap (Step.texts? b key)).getLast?.filter (!·.isEmpty))
      ∧ ∀ e, build steps = .error e → ∃ faults,
          e = .unrecoverable .invalidConfig (.storeFaults faults)
          ∧ e.message = "INVALID_CONFIG: " ++ Text.joinWith "; " (faults.map StoreFault.message)
          ∧ List.Forall₂ (fun step fault => step.fault? = some fault)
              (steps.filter fun step => ¬ step.Fits) faults := by
  refine ⟨?_, fun s built => ?_, fun e refused => ?_⟩
  · simp only [build_eq_ok_iff, Step.fault?_eq_none_iff]
    constructor
    · rintro ⟨s, fits, -⟩
      exact fits
    · exact fun fits => ⟨_, fits, rfl⟩
  -- what is built is the fold of the steps, and each look-up goes through the fold
  · obtain ⟨-, rfl⟩ := build_eq_ok_iff.mp built
    refine ⟨fun x profile => ?_, fun c => ⟨profileIds_foldl steps c, ?_⟩, fun b key => ?_⟩
    · exact congrArg (Option.getD · x.defaultValue) (get?_values_foldl steps x profile)
    · show ((steps.foldl apply empty).profileIds c).Nodup
      rw [profileIds_foldl]
      exact nodup_eraseDups _
    · exact congrArg (Option.filter (!·.isEmpty)) (get?_bundles_foldl steps b key)
  · obtain rfl := build_eq_error refused
    refine ⟨_, rfl, ?_, forall₂_faults steps⟩
    show "INVALID_CONFIG" ++ ": " ++ _ = _
    rfl

/-- Two servers for one directory, and an id that is mentioned in between; and a directory without a
profile next to a number for a text. -/
theorem build_refines_log_directories :
    let steps : List Step :=
      [.profileValue Schema.ldapServerAddresses "west" (.texts ["ldaps://a"]),
        .profile .ldapProfile "east",
        .profileValue Schema.ldapServerAddresses "west" (.texts ["ldaps://b"])]
    let misfits : List Step :=
      [.value Schema.ldapServerAddresses (.texts []), .profile .ldapProfile "east",
        .value Schema.siteAddress (.number 1)]
    (∃ s, build steps = .ok s
        ∧ s.store.answer (.value Schema.ldapServerAddresses (some "west")) = .texts ["ldaps://b"]
        ∧ s.store.answer (.profileIds .ldapProfile) = ["west", "east"])
      ∧ ∃ e, build misfits = .error e ∧ e.message =
        "INVALID_CONFIG: setting 'ldap.serverUrls' belongs to profiled category ldap_profile; " ++
          "setting 'pwm.selfURL' has syntax string but stored value is numeric" := by
  intro steps misfits
  have fits : ∀ step ∈ steps, step.Fits := by decide
  obtain ⟨s, built⟩ := (build_refines_log steps).1.mpr fits
  obtain ⟨values, ids, -⟩ := (build_refines_log steps).2.1 s built
  have refused : build misfits
      = .error (.unrecoverable .invalidConfig (.storeFaults (misfits.filterMap Step.fault?))) := rfl
  obtain ⟨faults, same, message, -⟩ := (build_refines_log misfits).2.2 _ refused
  obtain rfl : misfits.filterMap Step.fault? = faults := by simpa using same
  refine ⟨⟨s, built, ?_, ?_⟩, _, refused, message.trans ?_⟩
  · exact (values Schema.ldapServerAddresses (some "west")).trans (by decide)
  · exact (ids .ldapProfile).1.trans (by decide)
  · decide +kernel

end Snapshot

end TenantSettings

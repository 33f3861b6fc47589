import Mathlib.Tactic.Lemma
import TenantSettings.Store.Snapshot

/-!
# Redaction of secrets

The redaction of a secret keeps its length and nothing else.  Redacted throughout, a stored value, a
snapshot and the answers of a store show what may be known about the secrets in them.

* `Secret.redact_eq_redact_iff`: two secrets are redacted alike exactly if they are equally long.
* `StoredValue.redact`, `Snapshot.redact`, `Store.redact`: the redactions of what holds secrets.
* `Snapshot.store_redact`: a redacted snapshot gives redacted answers.  No default holds a secret,
  so whether a value is the default can be told from its redaction.
* `Snapshot.build_redact`: redacted steps build the redacted snapshot.
-/

namespace TenantSettings

/-! ### Secrets -/

namespace Secret

/-- The secret of asterisks that is as long as the secret. -/
def redact (s : Secret) : Secret := ⟨String.ofList (List.replicate s.length '*')⟩

@[simp] lemma length_redact (s : Secret) : s.redact.length = s.length := by
  simp [redact, length]

/-- Secrets are redacted alike exactly if they are equally long. -/
lemma redact_eq_redact_iff {s t : Secret} : s.redact = t.redact ↔ s.length = t.length := by
  constructor
  · intro h
    rw [← length_redact s, h, length_redact]
  · intro h
    rw [redact, redact, h]

/-- Whether a secret is empty can be told from its length. -/
lemma isEmpty_eq (s : Secret) : s.isEmpty = (s.length == 0) := by
  rw [isEmpty, length, Bool.eq_iff_iff, String.isEmpty_iff, beq_iff_eq, ← String.length_toList,
    List.length_eq_zero_iff, String.toList_eq_nil_iff]

@[simp] lemma isEmpty_redact (s : Secret) : s.redact.isEmpty = s.isEmpty := by
  rw [isEmpty_eq, isEmpty_eq, length_redact]

end Secret

/-- A service with its password redacted. -/
def WebService.redact (w : WebService) : WebService :=
  { w with password := w.password.map Secret.redact }

/-- A named secret with its password redacted. -/
def NamedSecret.redact (n : NamedSecret) : NamedSecret :=
  { n with password := n.password.redact }

/-! ### Stored values -/

namespace StoredValue

/-- A stored value with all secrets in it redacted. -/
def redact : StoredValue → StoredValue
  | .webServices l => .webServices (l.map WebService.redact)
  | .password p => .password (p.map Secret.redact)
  | .namedSecrets m => .namedSecrets (m.map NamedSecret.redact)
  | v => v

@[simp] lemma shape_redact (v : StoredValue) : v.redact.shape = v.shape := by
  cases v <;> rfl

/-- The shapes of the values that may hold secrets. -/
def secretShapes : List Shape := [.webServices, .password, .namedSecrets]

/-- Values of other shapes show everything. -/
lemma redact_of_notMem_secretShapes {v : StoredValue} (h : v.shape ∉ secretShapes) :
    v.redact = v := by
  cases v with
  | webServices l => simp [shape, secretShapes] at h
  | password p => simp [shape, secretShapes] at h
  | namedSecrets m => simp [shape, secretShapes] at h
  | _ => rfl

/-- A value with the redaction of an empty value is that empty value. -/
lemma redact_eq_empty_iff {v : StoredValue} {k : Shape} : v.redact = empty k ↔ v = empty k := by
  by_cases h : v.shape ∈ secretShapes
  · cases v with
    | webServices l => cases k <;> simp [redact, empty]
    | password p => cases k <;> simp [redact, empty]
    | namedSecrets m => cases k <;> simp [redact, empty, OrderedMap.map_eq_empty_iff]
    | _ => simp [shape, secretShapes] at h
  · rw [redact_of_notMem_secretShapes h]

end StoredValue

/-- The default of a setting that may hold secrets is empty. -/
lemma Setting.defaultValue_of_mem_secretShapes {x : Setting}
    (h : x.shape ∈ StoredValue.secretShapes) : x.defaultValue = .empty x.shape := by
  unfold defaultValue
  cases hx : x.shape <;> simp_all [StoredValue.secretShapes]

/-- A value with the redaction of a default is that default. -/
lemma Setting.redact_eq_defaultValue_iff {x : Setting} {v : StoredValue} :
    v.redact = x.defaultValue ↔ v = x.defaultValue := by
  by_cases h : v.shape ∈ StoredValue.secretShapes
  · by_cases hx : v.shape = x.shape
    · rw [defaultValue_of_mem_secretShapes (hx ▸ h)]
      exact StoredValue.redact_eq_empty_iff
    · have other : ∀ w : StoredValue, w.shape = v.shape → w ≠ x.defaultValue := by
        rintro w hw rfl
        exact hx (hw.symm.trans x.shape_defaultValue)
      exact iff_of_false (other _ v.shape_redact) (other _ rfl)
  · rw [StoredValue.redact_of_notMem_secretShapes h]

/-- No default holds a secret. -/
@[simp] lemma Setting.redact_defaultValue (x : Setting) :
    x.defaultValue.redact = x.defaultValue :=
  redact_eq_defaultValue_iff.mpr rfl

/-! ### Stores -/

/-- An answer with all secrets in it redacted. -/
def Question.redact : (q : Question) → q.Answer → q.Answer
  | .value _ _ => StoredValue.redact
  | _ => id

/-- The store that gives redacted answers. -/
def Store.redact (s : Store) : Store := ⟨fun q => q.redact (s.answer q)⟩

namespace Snapshot

/-- A snapshot with all secrets that are stored in it redacted. -/
def redact (s : Snapshot) : Snapshot := { s with values := s.values.map StoredValue.redact }

variable (s : Snapshot)

lemma value_redact (x : Setting) (profile : Option String) :
    s.redact.value x profile = (s.value x profile).redact := by
  rw [value, value, redact, OrderedMap.get?_map]
  cases s.values.get? (x, profile) with
  | none => exact x.redact_defaultValue.symm
  | some v => rfl

lemma isDefault_redact (x : Setting) (profile : Option String) :
    s.redact.isDefault x profile = s.isDefault x profile := by
  rw [isDefault, isDefault, redact, OrderedMap.get?_map]
  cases s.values.get? (x, profile) with
  | none => rfl
  | some v =>
      show (v.redact == x.defaultValue) = (v == x.defaultValue)
      rw [Bool.eq_iff_iff, beq_iff_eq, beq_iff_eq, Setting.redact_eq_defaultValue_iff]

lemma modified_redact : s.redact.modified = s.modified := by
  have kept : ∀ e : (Setting × Option String) × StoredValue,
      (e.2.redact != e.1.1.defaultValue) = (e.2 != e.1.1.defaultValue) := by
    intro e
    rw [Bool.eq_iff_iff, bne_iff_ne, bne_iff_ne, ne_eq, ne_eq, Setting.redact_eq_defaultValue_iff]
  simp [modified, redact, OrderedMap.map, List.filter_map, Function.comp_def, kept]

/-- A redacted snapshot gives redacted answers. -/
theorem store_redact : s.redact.store = s.store.redact := by
  have answers : ∀ q : Question, s.redact.store.answer q = q.redact (s.store.answer q) := by
    intro q
    cases q with
    | value x profile => exact s.value_redact x profile
    | isDefault x profile => exact s.isDefault_redact x profile
    | modified => exact s.modified_redact
    | _ => rfl
  exact congrArg Store.mk (funext answers)

/-- Snapshots of one redaction give answers of one redaction. -/
lemma store_redact_eq {s s' : Snapshot} (h : s.redact = s'.redact) :
    s.store.redact = s'.store.redact := by
  rw [← store_redact, ← store_redact, h]

/-! ### Snapshots that are built from steps -/

/-- A step with all secrets in what it stores redacted. -/
def Step.redact : Step → Step
  | .value x v => .value x v.redact
  | .profileValue x id v => .profileValue x id v.redact
  | step => step

/-- What is wrong with a step shows no secret. -/
lemma Step.fault?_redact (step : Step) : step.redact.fault? = step.fault? := by
  cases step <;> simp [Step.redact, fault?, Setting.admits]

lemma redact_put (x : Setting) (profile : Option String) (v : StoredValue) :
    (s.put x profile v).redact = s.redact.put x profile v.redact := by
  simp [put, redact, OrderedMap.map_insert]

lemma redact_addProfile (c : Category) (id : String) :
    (s.addProfile c id).redact = s.redact.addProfile c id := by
  unfold addProfile
  split <;> rename_i known <;> simp [redact, known]

lemma redact_apply (step : Step) : (s.apply step).redact = s.redact.apply step.redact := by
  cases step with
  | value x v => exact s.redact_put x none v
  | profileValue x id v =>
      show ((s.addProfile x.category id).put x (some id) v).redact = _
      rw [redact_put, redact_addProfile]
      rfl
  | profile c id => exact s.redact_addProfile c id
  | _ => rfl

lemma foldl_redact (steps : List Step) :
    (steps.foldl apply s).redact = (steps.map Step.redact).foldl apply s.redact := by
  induction steps generalizing s with
  | nil => rfl
  | cons step rest ih => rw [List.foldl_cons, ih, redact_apply, List.map_cons, List.foldl_cons]

/-- Redacted steps build the redacted snapshot, or fail with the same faults. -/
theorem build_redact (steps : List Step) :
    build (steps.map Step.redact) = (build steps).map redact := by
  have faults : (steps.map Step.redact).filterMap Step.fault? = steps.filterMap Step.fault? := by
    rw [List.filterMap_map]
    exact congrArg (List.filterMap · steps) (funext Step.fault?_redact)
  rw [build, build, faults]
  split
  · exact congrArg Except.ok (empty.foldl_redact steps).symm
  · rfl

end Snapshot

end TenantSettings

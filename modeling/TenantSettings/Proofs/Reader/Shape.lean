import TenantSettings.Proofs.Read
import TenantSettings.Proofs.Store.Build
import TenantSettings.Reader.Basic

/-!
# What a read refuses

A read refuses a setting for its shape only if the setting is declared with a shape that is read in
another way.  Stored data cannot bring this about: a snapshot holds nothing that does not fit, and
where a choice is stored as a text every reading takes the one like the other.

* `Reading.own`: the reading that a shape is meant for.
* `Reading.decode_of_notMem_shapes`, `Reading.onlyInvalid_decode`: a value of another shape is
  refused for it, and a value of the right shape only for what it holds.
* `Reader.wrongShape_iff_notMem_shapes`: when a read of a built snapshot refuses a shape.
-/

namespace TenantSettings

/-! ### Failures of an invalid configuration -/

/-- Whatever fails, fails because of what is stored. -/
def OnlyInvalid {α : Type} (r : Except ConfigError α) : Prop :=
  ∀ e, r = .error e → e.code? = some .invalidConfig

namespace OnlyInvalid

variable {α β : Type}

lemma ok (a : α) : OnlyInvalid (.ok a : Except ConfigError α) := by
  intro e failed
  cases failed

lemma error {e : ConfigError} (h : e.code? = some .invalidConfig) :
    OnlyInvalid (.error e : Except ConfigError α) := by
  rintro _ ⟨⟩
  exact h

lemma bind {r : Except ConfigError α} {f : α → Except ConfigError β} (hr : OnlyInvalid r)
    (hf : ∀ a, OnlyInvalid (f a)) : OnlyInvalid (r >>= f) := by
  cases r with
  | ok a => exact hf a
  | error e => exact error (hr e rfl)

lemma mapM {f : α → Except ConfigError β} (hf : ∀ a, OnlyInvalid (f a)) (l : List α) :
    OnlyInvalid (l.mapM f) := by
  induction l with
  | nil => exact ok []
  | cons a rest ih =>
      rw [List.mapM_cons]
      exact (hf a).bind fun _ => ih.bind fun _ => ok _

/-- Failures that are given such a cause. -/
lemma mapError {ε : Type} (r : Except ε α) {cause : ε → ConfigError}
    (h : ∀ fault, (cause fault).code? = some .invalidConfig) : OnlyInvalid (r.mapError cause) := by
  cases r with
  | ok a => exact ok a
  | error fault => exact error (h fault)

lemma map {r : Except ConfigError α} (hr : OnlyInvalid r) {f : α → β} : OnlyInvalid (r.map f) := by
  cases r with
  | ok a => exact ok _
  | error e => exact error (hr e rfl)

lemma quietly {r : Except ConfigError α} (hr : OnlyInvalid r) : OnlyInvalid (Reading.quietly r) :=
  hr.map

/-- No shape is refused. -/
lemma ne_wrongShape {r : Except ConfigError α} (hr : OnlyInvalid r) (key : String)
    (declared found : Shape) : r ≠ .error (.wrongShape key declared found) := by
  intro failed
  cases hr _ failed

end OnlyInvalid

/-! ### What decoding refuses -/

lemma onlyInvalid_certificatesOfPem (document : String) :
    OnlyInvalid (certificatesOfPem document) := by
  refine (OnlyInvalid.mapError _ fun _ => rfl).bind fun blocks => .mapM (fun block => ?_) _
  unfold certificateOfDer
  split
  · exact .ok _
  · exact .error rfl

lemma onlyInvalid_certificatesOfPems (documents : List String) :
    OnlyInvalid (certificatesOfPems documents) :=
  (OnlyInvalid.mapM onlyInvalid_certificatesOfPem documents).bind fun _ => .ok _

namespace Setting

variable (x : Setting)

lemma onlyInvalid_decodeFile (f : StoredFile) : OnlyInvalid (x.decodeFile f) := by
  unfold decodeFile
  split
  · exact .ok _
  · exact .error rfl

lemma onlyInvalid_decodePrivateKey (k : Option StoredKey) :
    OnlyInvalid (x.decodePrivateKey (.privateKey k)) := by
  cases k with
  | none => exact .ok _
  | some stored =>
      refine (OnlyInvalid.mapError _ fun _ => rfl).bind fun block => ?_
      split
      · exact OnlyInvalid.bind (.error rfl) fun _ =>
          (onlyInvalid_certificatesOfPems _).bind fun _ => .ok _
      · exact (onlyInvalid_certificatesOfPems _).bind fun _ => .ok _

end Setting

namespace Reading

/-- The reading that values of a shape are meant for. -/
def own {α : Type} [DecidableEq α] (locale : Locale) (ofWord? : String → Option α) : Shape → Reading
  | .text => .text
  | .flag => .flag
  | .number => .number
  | .texts => .texts
  | .localizedText => .localizedText locale
  | .localizedTexts => .localizedTexts locale
  | .choice => .choice ofWord?
  | .choices => .choices ofWord?
  | .form => .form
  | .permissions => .permissions
  | .actions => .actions
  | .webServices => .webServices
  | .password => .password
  | .namedSecrets => .namedSecrets
  | .files => .files
  | .certificates => .certificates
  | .privateKey => .privateKey
  | .localizedEmail => .email locale

lemma mem_shapes_own {α : Type} [DecidableEq α] (locale : Locale) (ofWord? : String → Option α)
    (shape : Shape) : shape ∈ (own locale ofWord? shape).shapes := by
  cases shape <;> simp [own, shapes]

/-- Every reading takes a text like a choice. -/
lemma text_mem_shapes_iff (reading : Reading) :
    .text ∈ reading.shapes ↔ .choice ∈ reading.shapes := by
  cases reading <;> simp [shapes]

/-- A value that a setting admits is read like one of the shape that the setting declares. -/
lemma mem_shapes_of_admits (reading : Reading) {x : Setting} {v : StoredValue}
    (fits : x.admits v = true) : v.shape ∈ reading.shapes ↔ x.shape ∈ reading.shapes := by
  have either : v.shape = x.shape ∨ x.shape = .choice ∧ v.shape = .text := by
    simpa [Setting.admits] using fits
  rcases either with same | ⟨choice, text⟩
  · rw [same]
  · rw [choice, text]
    exact reading.text_mem_shapes_iff

/-- A value of a shape that is read in another way is refused for its shape. -/
lemma decode_of_notMem_shapes {reading : Reading} {v : StoredValue}
    (other : v.shape ∉ reading.shapes) (x : Setting) :
    reading.decode x v = .error (.wrongShape x.key x.shape v.shape) := by
  cases reading <;> cases v <;>
    first | rfl | exact absurd (by simp [shapes, StoredValue.shape]) other

/-- A value of a shape that a reading takes is only ever refused for what it holds. -/
lemma onlyInvalid_decode {reading : Reading} {v : StoredValue} (taken : v.shape ∈ reading.shapes)
    (x : Setting) : OnlyInvalid (reading.decode x v) := by
  cases reading with
  | files =>
      cases v with
      | files l => exact ((OnlyInvalid.mapM x.onlyInvalid_decodeFile l).bind fun _ => .ok _).quietly
      | _ => simp [shapes, StoredValue.shape] at taken
  | certificates =>
      cases v with
      | certificates pems => exact (onlyInvalid_certificatesOfPems pems).quietly
      | _ => simp [shapes, StoredValue.shape] at taken
  | privateKey =>
      cases v with
      | privateKey k => exact (x.onlyInvalid_decodePrivateKey k).quietly
      | _ => simp [shapes, StoredValue.shape] at taken
  | choice ofWord? =>
      -- a word that stands for nothing is passed over
      cases v with
      | text word | choice word =>
          simp only [decode, Setting.decodeChoice]
          split
          · exact .ok _
          · exact .ok _
      | _ => simp [shapes, StoredValue.shape] at taken
  | _ => cases v <;> first | exact OnlyInvalid.ok _ | simp [shapes, StoredValue.shape] at taken

end Reading

namespace Reader

/-- What a read comes to, where the setting may be read: what the value that the store answers with
decodes to. -/
lemma result_read (r : Reader) {x : Setting} {profile : Option String}
    (scope : r.scope x = .ok profile) (reading : Reading) (store : Store) :
    (r.read x reading).result store
      = (reading.decode x (store.answer (.value x profile))).map Prod.fst := by
  rw [Read.result, carryOut_read, scope]
  dsimp only
  split
  · next failed => rw [failed]; rfl
  · next done => rw [done]; rfl

/-- A setting may be looked up outside of profiles if it has none, and else through the reader of a
profile. -/
lemma exists_scope (r : Reader) {x : Setting}
    (allowed : x.isProfiled = true → r.profile.isSome = true) :
    ∃ profile, r.scope x = .ok profile := by
  unfold scope
  cases profiled : x.isProfiled with
  | false => exact ⟨none, rfl⟩
  | true =>
      obtain ⟨id, named⟩ := Option.isSome_iff_exists.mp (allowed profiled)
      exact ⟨some id, by rw [named]; rfl⟩

/-- Over every snapshot that is built, a read of a setting that may be looked up here fails for the
shape of the setting exactly if the declared shape is not among those that the reading takes,
whatever is stored.  So the reading that the declared shape is meant for never fails for it, where
a choice may be read as a value of any type. -/
theorem wrongShape_iff_notMem_shapes {steps : List Snapshot.Step} {s : Snapshot}
    (built : Snapshot.build steps = .ok s) (r : Reader) (x : Setting)
    (allowed : x.isProfiled = true → r.profile.isSome = true) :
    (∀ reading : Reading,
        (∃ key declared found, (r.read x reading).result s.store
          = .error (.wrongShape key declared found)) ↔ x.shape ∉ reading.shapes)
      ∧ ∀ {α : Type} [DecidableEq α] (locale : Locale) (ofWord? : String → Option α) (key : String)
          (declared found : Shape), (r.read x (.own locale ofWord? x.shape)).result s.store
            ≠ .error (.wrongShape key declared found) := by
  obtain ⟨profile, scope⟩ := r.exists_scope allowed
  -- whatever is stored, and the default if nothing is
  have fits : x.admits (s.store.answer (.value x profile)) = true :=
    (Snapshot.Admitted.of_build built).value x profile
  have taken : ∀ reading : Reading, x.shape ∈ reading.shapes →
      ∀ key declared found, (r.read x reading).result s.store
        ≠ .error (.wrongShape key declared found) := by
    intro reading mem key declared found
    rw [r.result_read scope]
    have decoded := Reading.onlyInvalid_decode ((reading.mem_shapes_of_admits fits).mpr mem) x
    exact decoded.map.ne_wrongShape key declared found
  refine ⟨fun reading => ⟨?_, fun other => ?_⟩, fun locale ofWord? => ?_⟩
  · rintro ⟨key, declared, found, refused⟩ mem
    exact taken reading mem key declared found refused
  · have refused := Reading.decode_of_notMem_shapes
      (mt (reading.mem_shapes_of_admits fits).mp other) x
    refine ⟨x.key, x.shape, (s.store.answer (.value x profile)).shape, ?_⟩
    rw [r.result_read scope, refused]
    rfl
  · exact taken _ (Reading.mem_shapes_own locale ofWord? x.shape)

/-- A choice of a profile that is stored as a text, read as a truth value and as the choice that it
is. -/
theorem wrongShape_iff_notMem_shapes_choice :
    let steps : List Snapshot.Step :=
      [.profileValue Schema.recoveryTokenSendMethod "east" (.text "EMAILONLY")]
    let r : Reader := ⟨"example.org", some "east"⟩
    let x := Schema.recoveryTokenSendMethod
    ∃ s, Snapshot.build steps = .ok s
      ∧ (x.isProfiled = true → r.profile.isSome = true)
      ∧ (∃ key declared found, (r.read x .flag).result s.store
          = .error (.wrongShape key declared found))
      ∧ ¬ ∃ key declared found, (r.read x (.oneOf SendMethod)).result s.store
          = .error (.wrongShape key declared found) := by
  intro steps r x
  have built : Snapshot.build steps = .ok (steps.foldl Snapshot.apply .empty) := rfl
  have allowed : x.isProfiled = true → r.profile.isSome = true := fun _ => rfl
  obtain ⟨refused, -⟩ := wrongShape_iff_notMem_shapes built r x allowed
  refine ⟨_, built, allowed, (refused .flag).mpr (by decide), fun failed => ?_⟩
  exact (refused (.oneOf SendMethod)).mp failed (by decide)

end Reader

end TenantSettings

import TenantSettings.Profile.Definition
import TenantSettings.Proofs.Reader.Contract

/-!
# Valid profiles

What holds of every profile that is handed out, whatever the store answers, and which errors stand
in for a profile that is not. Both are read off the same chain of reads, one chain for each record.

* `ProfileKind.Valid`: the rules of each kind of profile.
* `Definition.Reports`: the errors that the profiles of a definition may fail with.
* `Definition.meets_readRecord`: the record of a kind goes by the id of its reader, is valid, and
  fails with no code but those of the kind.
* `Definition.meets_build`: so does the profile under a definition, whose errors all have a code.
-/

namespace TenantSettings

/-! ### The rules of each kind -/

/-- A directory in use has a server, and only one without an id may be without a name. -/
structure Directory.Valid (p : Directory) : Prop where
  reached : p.enabled = true → p.serverAddresses ≠ []
  named : p.id ≠ "" → p.displayName ≠ ""

/-- A password is recovered in some way, and tokens are sent by a method that works. -/
structure PasswordRecovery.Valid (p : PasswordRecovery) : Prop where
  verified : p.methods ≠ []
  supported : p.tokenSendMethod.isDeprecated = false

/-- Accounts are put into a container that is named. -/
structure Registration.Valid (p : Registration) : Prop where
  contained : Unicode.isBlank p.container = false

/-- A search is public exactly if it is meant to be, and then it applies to nobody in particular. -/
structure PeopleSearch.Valid (isPublic : Bool) (p : PeopleSearch) : Prop where
  meant : p.isPublic = isPublic
  anyone : p.isPublic = true → p.appliesTo = []

/-- A mail server has an address, and listens on the stored number, which sixteen bits hold and
which is not zero. -/
structure EmailServer.Valid (store : Store) (p : EmailServer) : Prop where
  bounded : 1 ≤ p.portNumber ∧ p.portNumber ≤ 65535
  stored : ∃ n : Int64,
    store.answer (.value Schema.emailServerPort (some p.id)) = .number n ∧ n.toInt = p.portNumber
  addressed : Unicode.isBlank p.address = false

namespace ProfileKind

/-- The rules that the records of a kind keep; most kinds have none. -/
def Valid (store : Store) (isPublic : Bool) : (k : ProfileKind) → k.Record → Prop
  | .directory, p => Directory.Valid p
  | .passwordRecovery, p => PasswordRecovery.Valid p
  | .registration, p => Registration.Valid p
  | .peopleSearch, p => PeopleSearch.Valid isPublic p
  | .emailServer, p => EmailServer.Valid store p
  | _, _ => True

/-- The codes that the errors of a kind may carry: certificates of a directory can be unusable, and
a send method can have stopped working. -/
def codes : ProfileKind → List ErrorCode
  | .directory => [.profileConstruction, .invalidConfig]
  | .passwordRecovery => [.profileConstruction, .deprecatedValue]
  | _ => [.profileConstruction]

end ProfileKind

/-- The rules that a profile keeps that was built under a definition. -/
def Profile.Valid (store : Store) (d : Definition) (p : Profile) : Prop :=
  p.kind.Valid store (d == .peopleSearchPublic) p.record

/-! ### Records -/

section records

open Read Reader ConfigError

variable {store : Store} {r : Reader}

lemma Directory.meets_read :
    Meets store (fun p => p.id = r.profileId ∧ p.Valid) (CodeIn ProfileKind.directory.codes)
      (Directory.read r) := by
  refine (r.meets_read _ rfl).bind fun enabled _ => (r.meets_read _ rfl).bind fun addresses _ => ?_
  refine .ite (fun _ => ?_) fun equipped => ?_
  · exact r.meets_fault _ (codeIn_ofProfile (by decide) _ _)
  refine (r.meets_read _ rfl).bind fun name _ => ?_
  refine (r.meets_read _ rfl).bind fun _ _ => (r.meets_read _ rfl).bind fun _ _ => ?_
  -- of all that is read here only the certificates can be unusable
  refine (r.meets_read_of_invalidConfig _ .certificates (by decide)).bind fun _ _ => ?_
  refine (r.meets_read _ rfl).bind fun _ _ => (r.meets_read _ rfl).bind fun _ _ =>
    (r.meets_read _ rfl).bind fun _ _ => .pure ⟨rfl, ?_, ?_⟩
  · intro used none
    have unequipped : (enabled && addresses.isEmpty) = true := by
      rw [Bool.and_eq_true, List.isEmpty_iff]
      exact ⟨used, none⟩
    exact equipped unequipped
  · intro known nameless
    dsimp only at nameless
    split at nameless
    · exact known nameless
    · next written => exact written (by rw [nameless]; rfl)

/-- A send method is supported exactly if it still works; else the error says so. -/
lemma SendMethod.meets_ensureSupported (method : SendMethod) (key : String)
    (scope : Option String) {codes : List ErrorCode} (known : .deprecatedValue ∈ codes) :
    Meets store (fun _ => method.isDeprecated = false) (CodeIn codes)
      (Read.ofExcept (method.ensureSupported key scope)) := by
  unfold SendMethod.ensureSupported
  split
  · refine .ofExcept (fun _ done => by cases done) fun e failed c hc => ?_
    obtain rfl := Except.error.inj failed
    exact Option.some.inj hc ▸ known
  · next works =>
      refine .ofExcept (fun _ _ => ?_) fun _ failed => by cases failed
      exact Bool.not_eq_true _ ▸ works

lemma PasswordRecovery.meets_read :
    Meets store (fun p => p.id = r.profileId ∧ p.Valid) (CodeIn ProfileKind.passwordRecovery.codes)
      (PasswordRecovery.read r) := by
  refine (r.meets_read _ rfl).bind fun methods _ => .ite (fun _ => ?_) fun verified => ?_
  · exact r.meets_fault _ (codeIn_ofProfile (by decide) _ _)
  refine (r.meets_read _ rfl).bind fun stored _ => ?_
  refine (SendMethod.meets_ensureSupported _ _ _ (by decide)).bind fun _ supported => ?_
  refine (r.meets_read _ rfl).bind fun _ _ => (r.meets_read _ rfl).bind fun _ _ =>
    .pure ⟨rfl, ?_, supported⟩
  rintro rfl
  exact verified rfl

lemma Registration.meets_read :
    Meets store (fun p => p.id = r.profileId ∧ p.Valid) (CodeIn ProfileKind.registration.codes)
      (Registration.read r) :=
  (r.meets_read _ rfl).bind fun _ _ => (r.meets_requiredText _ (by decide)).bind fun _ contained =>
    (r.meets_read _ rfl).bind fun _ _ => (r.meets_read _ rfl).bind fun _ _ =>
    .pure ⟨rfl, ⟨contained⟩⟩

lemma PeopleSearch.meets_read (isPublic : Bool) :
    Meets store (fun p => p.id = r.profileId ∧ p.Valid isPublic)
      (CodeIn ProfileKind.peopleSearch.codes) (PeopleSearch.read isPublic r) := by
  refine (r.meets_number _).bind fun _ _ => .ite (fun _ => ?_) fun closed => ?_
  -- whom a public search applies to is not read
  · have nobody : Meets store (fun l : List Permission => l = [])
        (CodeIn ProfileKind.peopleSearch.codes) (pure []) := .pure rfl
    exact nobody.bind fun _ anyone => (r.meets_read _ rfl).bind fun _ _ =>
      (r.meets_read _ rfl).bind fun _ _ => .pure ⟨rfl, rfl, fun _ => anyone⟩
  · exact (r.meets_read _ rfl).bind fun _ _ => (r.meets_read _ rfl).bind fun _ _ =>
      (r.meets_read _ rfl).bind fun _ _ => .pure ⟨rfl, rfl, fun opened => absurd opened closed⟩

lemma EmailServer.meets_read {id : String} (named : r.profile = some id) :
    Meets store (fun p => p.id = r.profileId ∧ p.Valid store)
      (CodeIn ProfileKind.emailServer.codes) (EmailServer.read r) := by
  have own : r.profileId = id := by rw [profileId, named]; rfl
  refine (r.meets_number _).bind fun n read => .ite (fun _ => ?_) fun bounded => ?_
  · exact r.meets_fault _ (codeIn_ofProfile (by decide) _ _)
  obtain ⟨stored, found, rfl⟩ := read
  refine (r.meets_requiredText _ (by decide)).bind fun _ addressed => ?_
  refine (r.meets_read _ rfl).bind fun _ _ => (r.meets_read _ rfl).bind fun _ _ =>
    (r.meets_read _ rfl).bind fun _ _ => .pure ⟨rfl, ?_, ⟨stored, ?_, ?_⟩, addressed⟩
  · dsimp only
    omega
  · dsimp only
    rw [own]
    exact found.stored_number named rfl
  · dsimp only
    omega

-- the kinds without rules
lemma PasswordChange.meets_read :
    Meets store (fun p => p.id = r.profileId) (CodeIn ProfileKind.passwordChange.codes)
      (PasswordChange.read r) :=
  (r.meets_read _ rfl).bind fun _ _ => (r.meets_read _ rfl).bind fun _ _ =>
    (r.meets_read _ rfl).bind fun _ _ => .pure rfl

lemma Activation.meets_read :
    Meets store (fun p => p.id = r.profileId) (CodeIn ProfileKind.activation.codes)
      (Activation.read r) :=
  (r.meets_read _ rfl).bind fun _ _ => (r.meets_read _ rfl).bind fun _ _ =>
    (r.meets_read _ rfl).bind fun _ _ => .pure rfl

lemma Helpdesk.meets_read :
    Meets store (fun p => p.id = r.profileId) (CodeIn ProfileKind.helpdesk.codes)
      (Helpdesk.read r) :=
  (r.meets_read _ rfl).bind fun _ _ => (r.meets_read _ rfl).bind fun _ _ =>
    (r.meets_read _ rfl).bind fun _ _ => .pure rfl

lemma OtpSetup.meets_read :
    Meets store (fun p => p.id = r.profileId) (CodeIn ProfileKind.otpSetup.codes)
      (OtpSetup.read r) :=
  (r.meets_read _ rfl).bind fun _ _ => (r.meets_read _ rfl).bind fun _ _ => .pure rfl

lemma AttributeUpdate.meets_read :
    Meets store (fun p => p.id = r.profileId) (CodeIn ProfileKind.attributeUpdate.codes)
      (AttributeUpdate.read r) :=
  (r.meets_read _ rfl).bind fun _ _ => (r.meets_read _ rfl).bind fun _ _ =>
    (r.meets_read _ rfl).bind fun _ _ => .pure rfl

end records

/-! ### Profiles under a definition -/

namespace Definition

open Read Reader ConfigError

variable {store : Store} {r : Reader}

/-- The record of every kind goes by the id of its reader and keeps the rules of the kind, and it
fails with no code but those of the kind. -/
lemma meets_readRecord {id : String} (named : r.profile = some id) (isPublic : Bool)
    (k : ProfileKind) :
    Meets store (fun p => (Profile.mk k p).id = r.profileId ∧ k.Valid store isPublic p)
      (CodeIn k.codes) (readRecord isPublic r k) := by
  have unruled : ∀ {α : Type} {idOf : α → String} {E : ConfigError → Prop} {x : Read α},
      Meets store (fun p => idOf p = r.profileId) E x →
        Meets store (fun p => idOf p = r.profileId ∧ True) E x :=
    fun h => h.mono (fun _ own => ⟨own, trivial⟩) fun _ coded => coded
  cases k with
  | directory => exact Directory.meets_read
  | passwordChange => exact unruled PasswordChange.meets_read
  | passwordRecovery => exact PasswordRecovery.meets_read
  | activation => exact unruled Activation.meets_read
  | registration => exact Registration.meets_read
  | helpdesk => exact unruled Helpdesk.meets_read
  | otpSetup => exact unruled OtpSetup.meets_read
  | attributeUpdate => exact unruled AttributeUpdate.meets_read
  | peopleSearch => exact PeopleSearch.meets_read isPublic
  | emailServer => exact EmailServer.meets_read named

/-- The errors that the profiles of a definition may fail with: a profile that cannot be built, a
certificate of a directory that is unusable, and a send method that no longer works. -/
inductive Reports (d : Definition) : ConfigError → Prop
  | construction (cause : Cause) : Reports d (.unrecoverable .profileConstruction cause)
  | certificate (cause : Cause) (directory : d = .ldap) :
      Reports d (.unrecoverable .invalidConfig cause)
  | sendMethod (cause : Cause) (recovery : d = .forgottenPassword) :
      Reports d (.unrecoverable .deprecatedValue cause)

/-- None of them comes from asking the wrong way. -/
lemma Reports.isProgrammerError_eq_false {d : Definition} {e : ConfigError} (h : d.Reports e) :
    e.isProgrammerError = false := by
  cases h <;> rfl

/-- The codes of a kind, at the definition that has it. -/
lemma reports_of_mem_codes {d : Definition} {k : ProfileKind} (kind : d.kind? = some k)
    {code : ErrorCode} (known : code ∈ k.codes) (cause : Cause) :
    d.Reports (.unrecoverable code cause) := by
  have either : code = .profileConstruction ∨ code = .invalidConfig ∧ k = .directory
      ∨ code = .deprecatedValue ∧ k = .passwordRecovery := by
    cases k <;> simp_all [ProfileKind.codes]
  rcases either with rfl | ⟨rfl, rfl⟩ | ⟨rfl, rfl⟩
  · exact .construction cause
  · exact .certificate cause (by cases d <;> simp_all [kind?])
  · exact .sendMethod cause (by cases d <;> simp_all [kind?])

/-- What a profile is reported by: an error of its kind as it is, and anything else as a profile
that cannot be built. -/
lemma reports_buildError {d : Definition} {k : ProfileKind} (kind : d.kind? = some k)
    {e : ConfigError} (coded : e.CodeIn k.codes) : d.Reports (d.buildError r e) := by
  cases e with
  | unrecoverable code cause => exact reports_of_mem_codes kind (coded code rfl) cause
  | _ => exact .construction _

/-- The profile of an id under a definition is of the kind of the definition, goes by the id and
keeps the rules of its kind, whatever the store answers; and if there is none, the error is one that
the definition may fail with. -/
theorem meets_build (d : Definition) {id : String} (named : r.profile = some id) :
    Meets store (fun p => d.kind? = some p.kind ∧ p.id = id ∧ p.Valid store d) d.Reports
      (d.build r) := by
  have own : r.profileId = id := by rw [profileId, named]; rfl
  cases kind : d.kind? with
  | none =>
      rw [build, kind]
      exact .fail (.construction _)
  | some k =>
      have read : Meets store _ _ (readRecord (d == .peopleSearchPublic) r k) :=
        meets_readRecord named _ k
      rw [build, kind]
      refine (read.map fun record rules => ?_).mapError fun e coded => reports_buildError kind coded
      exact ⟨rfl, rules.1.trans own, rules.2⟩

end Definition

end TenantSettings

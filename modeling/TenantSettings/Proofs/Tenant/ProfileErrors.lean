import TenantSettings.Proofs.Tenant.ProfileMaps

/-!
# Errors of profiles

Which errors a tenant answers with when a profile cannot be handed out. A map of profiles fails with
the error of one of its profiles, over any store. A password policy or the questions of a challenge
are looked up by an id first; over a snapshot nothing that is read for them can have the wrong
shape, so that what fails after the look-up is the profile itself.

* `Tenant.reports_of_derive_profiles`: what the map of a definition fails with.
* `PasswordPolicy.meets_read`, `ChallengeProfile.meets_read`: what a policy and a challenge fail
  with over a snapshot.
* `Tenant.RefusesOnly`: how a look-up by an id is refused.
* `Tenant.profile_errors`: the errors of maps over every store, and of policies and challenges over
  every snapshot that is built.
-/

namespace TenantSettings

/-- The error says that a profile cannot be built. -/
def ConfigError.OfConstruction (e : ConfigError) : Prop :=
  ∃ cause, e = .unrecoverable .profileConstruction cause

/-! ### Policies and challenges over a snapshot -/

section snapshots

open Read Reader ConfigError

variable {s : Snapshot} {r : Reader} (fits : s.Admitted) (named : r.profile.isSome = true)

include fits named

/-- Nothing that is stored is refused under a reading that is meant for its setting. -/
lemma Reader.meets_read_stored {E : ConfigError → Prop} (x : Setting) {reading : Reading}
    (all : reading.takesAll = true) (own : x.shape ∈ reading.shapes) :
    Meets s.store (fun _ => True) E (r.read x reading) :=
  r.meets_read_of_admits all own (fun _ => named) fun profile => fits.value x profile

lemma Reader.meets_number_stored {E : ConfigError → Prop} (x : Setting)
    (own : x.shape ∈ Reading.number.shapes) :
    Meets s.store (fun _ => True) E (r.number x) := by
  have read : Meets s.store (fun _ => True) E (r.read x .number) :=
    meets_read_stored fits named x rfl own
  exact read.bind fun _ _ => .pure trivial

/-- A count is refused only for being negative. -/
lemma Reader.meets_count_stored (x : Setting) (own : x.shape ∈ Reading.number.shapes) :
    Meets s.store (fun _ => True) OfConstruction (r.count x) := by
  refine (meets_number_stored fits named x own).bind fun n _ => .ite (fun _ => ?_) fun _ => ?_
  · exact r.meets_fault _ ⟨_, rfl⟩
  · exact .pure trivial

/-- A policy fails for a count that is negative, or for lengths that are out of order. -/
lemma PasswordPolicy.meets_read (locale : Locale) :
    Meets s.store (fun _ => True) OfConstruction (PasswordPolicy.read r locale) := by
  have count : ∀ x : Setting, x.shape ∈ Reading.number.shapes →
      Meets s.store (fun _ => True) OfConstruction (r.count x) :=
    fun x own => meets_count_stored fits named x own
  refine (count _ (by decide)).bind fun minimum _ => (count _ (by decide)).bind fun maximum _ =>
    .ite (fun _ => ?_) fun _ => ?_
  · exact r.meets_fault _ ⟨_, rfl⟩
  refine (meets_read_stored fits named _ rfl (by decide)).bind fun _ _ => ?_
  refine (count _ (by decide)).bind fun _ _ => (count _ (by decide)).bind fun _ _ =>
    (count _ (by decide)).bind fun _ _ => (count _ (by decide)).bind fun _ _ => ?_
  refine (meets_read_stored fits named _ rfl (by decide)).bind fun _ _ => ?_
  exact (meets_read_stored fits named _ rfl (.head _)).bind fun _ _ => .pure trivial

/-- A challenge fails if it asks for more random questions than there are, or for less than none. -/
lemma ChallengeProfile.meets_read (locale : Locale) :
    Meets s.store (fun _ => True) OfConstruction (ChallengeProfile.read r locale) := by
  refine (meets_read_stored fits named _ rfl (.head _)).bind fun _ _ =>
    (meets_number_stored fits named _ (by decide)).bind fun _ _ => .ite (fun _ => ?_) fun _ => ?_
  · exact r.meets_fault _ ⟨_, rfl⟩
  · exact (meets_read_stored fits named _ rfl (.head _)).bind fun _ _ => .pure trivial

end snapshots

namespace Tenant

open Read

/-! ### Maps of profiles -/

/-- The map of a definition fails with an error that its profiles may fail with, whatever the store
answers. -/
lemma reports_of_derive_profiles {t : Tenant} {store : Store} {d : Definition} {e : ConfigError}
    (refused : t.derive store (.profiles d) = .error e) : d.Reports e := by
  cases kind : d.kind? with
  | none =>
      rw [derive, result_buildProfiles, kind] at refused
      cases refused
  | some k =>
      obtain ⟨_, _, _, _, _, broken⟩ := firstFailure_of_derive_profiles kind refused
      exact (d.meets_build rfl).fails broken

/-- The directories in use fail as the map of all directories does. -/
lemma reports_of_derive_directories {t : Tenant} {store : Store} {e : ConfigError}
    (refused : t.derive store .directories = .error e) : Definition.ldap.Reports e := by
  rw [derive] at refused
  cases derived : t.derive store (.profiles .ldap) with
  | ok all =>
      rw [derive] at derived
      rw [derived] at refused
      cases refused
  | error e' =>
      have reports := reports_of_derive_profiles derived
      rw [derive] at derived
      rw [derived] at refused
      exact Except.error.inj refused ▸ reports

/-! ### Look-ups by an id -/

section lookups

variable {α : Type} {c : Category} {id : String} {configured : List String}

/-- How a look-up of a profile by its id is refused: it says that the profile is unknown exactly if
an id is given that is not configured, and otherwise that the profile cannot be built. -/
structure RefusesOnly (c : Category) (id : String) (configured : List String)
    (result : Except ConfigError α) : Prop where
  errors : ∀ e, result = .error e → e = .unknownProfile c id ∨ e.OfConstruction
  unknown_iff : result = .error (.unknownProfile c id) ↔ id ≠ "" ∧ id ∉ configured

/-- A look-up whose profile, once it is found, only fails for what it is. -/
lemma refusesOnly_resolveProfile {f : String → Except ConfigError α}
    (fails : ∀ id e, f id = .error e → e.OfConstruction) :
    RefusesOnly c id configured (resolveProfile c id configured >>= f) := by
  have other : ∀ found, f found ≠ .error (.unknownProfile c id) := by
    intro found refused
    obtain ⟨cause, same⟩ := fails found _ refused
    cases same
  unfold resolveProfile
  split
  · next nameless =>
      have blank : id = "" := by simpa using nameless
      exact ⟨fun e refused => .inr (fails _ e refused),
        fun refused => absurd refused (other _), fun given => absurd blank given.1⟩
  · next given =>
      split
      · next mem =>
          exact ⟨fun e refused => .inr (fails _ e refused),
            fun refused => absurd refused (other _), fun missing => absurd mem missing.2⟩
      · next missing =>
          refine ⟨fun e refused => .inl (Except.error.inj refused).symm, fun _ => ?_, fun _ => rfl⟩
          exact ⟨fun blank => given (by simp [blank]), missing⟩

end lookups

section snapshots

variable {t : Tenant} {s : Snapshot} (fits : s.Admitted) (id : String) (locale : Locale)

include fits

lemma refusesOnly_passwordPolicy :
    RefusesOnly .passwordPolicy id (s.profileIds .passwordPolicy)
      (t.answer s.store (.passwordPolicy id locale)) := by
  refine refusesOnly_resolveProfile fun found e refused => ?_
  rw [derive, result_buildPolicy] at refused
  exact (PasswordPolicy.meets_read fits rfl locale).fails refused

lemma refusesOnly_challengeProfile :
    RefusesOnly .challengePolicy id (s.profileIds .challengePolicy)
      (t.answer s.store (.challengeProfile id locale)) :=
  refusesOnly_resolveProfile fun _ _ refused =>
    (ChallengeProfile.meets_read fits rfl locale).fails refused

end snapshots

/-! ### Requests -/

/-- After any run of requests: over every store, a map of profiles, as such, as records of any kind
and as the directories in use, fails only with an error that the profiles of its definition may fail
with, and such an error never comes from asking the wrong way; over every snapshot that is built, a
password policy and a challenge are refused for an id that is not configured, or else because the
profile cannot be built. -/
theorem profile_errors (t : Tenant) :
    (∀ (store : Store) (requests : List Request),
        let m := t.memoryAfter store .empty requests
        (∀ d e, (t.serve store m (.profiles d)).value.1 = .error e →
          d.Reports e ∧ e.isProgrammerError = false)
        ∧ (∀ k d e, ((t.profilesAs k d).carryOut store m).value.1 = .error e →
          d.Reports e ∧ e.isProgrammerError = false)
        ∧ ∀ e, (t.serve store m .directories).value.1 = .error e →
          Definition.ldap.Reports e ∧ e.isProgrammerError = false)
      ∧ ∀ (steps : List Snapshot.Step) (s : Snapshot), Snapshot.build steps = .ok s →
          ∀ (requests : List Request) (id : String) (locale : Locale),
            let m := t.memoryAfter s.store .empty requests
            RefusesOnly .passwordPolicy id (s.profileIds .passwordPolicy)
                (t.serve s.store m (.passwordPolicy id locale)).value.1
              ∧ RefusesOnly .challengePolicy id (s.profileIds .challengePolicy)
                (t.serve s.store m (.challengeProfile id locale)).value.1 := by
  refine ⟨fun store requests => ?_, fun steps s built requests id locale => ?_⟩
  · intro m
    have sound : m.Sound t store := sound_memoryAfter (Memory.sound_empty t store) requests
    -- every map goes back to the map of profiles, whose errors are known
    have reported : ∀ {d e}, t.derive store (.profiles d) = .error e →
        d.Reports e ∧ e.isProgrammerError = false := by
      intro d e refused
      have reports := reports_of_derive_profiles refused
      exact ⟨reports, reports.isProgrammerError_eq_false⟩
    refine ⟨fun d e refused => ?_, fun k d e refused => ?_, fun e refused => ?_⟩
    · exact reported ((t.profiles_yields store d m sound).1.symm.trans refused)
    · have read := (t.profilesAs_yields store k d m sound).1.symm.trans refused
      cases derived : t.derive store (.profiles d) with
      | ok all =>
          rw [derived] at read
          cases read
      | error e' =>
          rw [derived] at read
          obtain rfl : e' = e := Except.error.inj read
          exact reported derived
    · have reports := reports_of_derive_directories
        ((t.directories_yields store m sound).1.symm.trans refused)
      exact ⟨reports, reports.isProgrammerError_eq_false⟩
  · intro m
    -- an arbitrary store could answer with another shape, which a snapshot that is built cannot
    have fits := Snapshot.Admitted.of_build built
    rw [t.serve_memoryAfter_eq_answer, t.serve_memoryAfter_eq_answer]
    exact ⟨refusesOnly_passwordPolicy fits id locale, refusesOnly_challengeProfile fits id locale⟩

/-- A policy with a count below zero, asked for by its id and by one that is not configured, and a
directory in use without a server. -/
theorem profile_errors_negative_count :
    let steps : List Snapshot.Step :=
      [.profileValue Schema.passwordPolicyMinimumLength "corp" (.number (-1)),
        .profile .ldapProfile "east"]
    let s := steps.foldl Snapshot.apply .empty
    let t : Tenant := ⟨"example.org", .default, fun _ _ => 0⟩
    Snapshot.build steps = .ok s
      ∧ (t.serve s.store (t.memoryAfter s.store .empty [.digest])
          (.passwordPolicy "ocrp" .root)).value.1 = .error (.unknownProfile .passwordPolicy "ocrp")
      ∧ (∃ e, (t.serve s.store (t.memoryAfter s.store .empty [.digest])
          (.passwordPolicy "corp" .root)).value.1 = .error e ∧ e.OfConstruction)
      ∧ ∃ e, (t.serve s.store (t.memoryAfter s.store .empty [.digest])
          (.profiles .ldap)).value.1 = .error e ∧ Definition.ldap.Reports e := by
  intro steps s t
  have built : Snapshot.build steps = .ok s := rfl
  obtain ⟨maps, lookups⟩ := t.profile_errors
  have unknown := (lookups steps s built [.digest] "ocrp" .root).1
  have known := (lookups steps s built [.digest] "corp" .root).1
  refine ⟨built, unknown.unknown_iff.mpr (by decide), ?_, ?_⟩
  · have refused : (t.serve s.store (t.memoryAfter s.store .empty [.digest])
        (.passwordPolicy "corp" .root)).value.1
          = .error (.ofProfile "corp" (.negative "password.policy.minimumLength" (-1))) := by
      rw [t.serve_memoryAfter_eq_answer]
      rfl
    refine ⟨_, refused, (known.errors _ refused).resolve_left fun unknown => ?_⟩
    cases unknown
  · have refused : (t.serve s.store (t.memoryAfter s.store .empty [.digest])
        (.profiles .ldap)).value.1 = .error (.ofProfile "east" .noServers) := by
      rw [t.serve_memoryAfter_eq_answer]
      rfl
    exact ⟨_, refused, ((maps s.store [.digest]).1 .ldap _ refused).1⟩

end Tenant

end TenantSettings

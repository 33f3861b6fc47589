import TenantSettings.Proofs.Reader.Contract
import TenantSettings.Proofs.Tenant.ComputeOnce

/-!
# Profiles asked for by the id they carry

A password policy and a challenge carry the id of the profile that they were read for, and that need
not be the id that they were asked for by: the empty one stands for another. Where a category has
profiles the id that is carried stands for itself. Where it has none the empty id still stands for
the default profile, which is not one of the category, so that it is refused by its own id.

* `Tenant.resolveProfile_self`: an id that another one stands for stands for itself.
* `PasswordPolicy.meets_id`, `ChallengeProfile.meets_id`: the id that is carried.
* `Tenant.foundAgain_resolveProfile`: a look-up by an id and then by the id that is carried.
* `Tenant.serve_own_id`: policies and challenges that are asked for by the id they carry;
  `Tenant.serve_own_id_unconfigured`, where they are refused.
-/

namespace TenantSettings

open Read

/-! ### The id that is carried -/

section carried

variable {store : Store}

/-- A policy carries the id of its reader. -/
lemma PasswordPolicy.meets_id (r : Reader) (locale : Locale) :
    Meets store (·.id = r.profileId) (fun _ => True) (PasswordPolicy.read r locale) := by
  refine .after fun _ => .after fun _ => .ite (fun _ => r.meets_fault _ trivial) fun _ => ?_
  exact .after fun _ => .after fun _ => .after fun _ => .after fun _ => .after fun _ =>
    .after fun _ => .after fun _ => .pure rfl

/-- A challenge carries the id of its reader. -/
lemma ChallengeProfile.meets_id (r : Reader) (locale : Locale) :
    Meets store (·.id = r.profileId) (fun _ => True) (ChallengeProfile.read r locale) := by
  refine .after fun _ => .after fun _ => .ite (fun _ => r.meets_fault _ trivial) fun _ => ?_
  exact .after fun _ => .pure rfl

end carried

namespace Tenant

/-! ### Look-ups by an id -/

section lookups

variable {α : Type} {c : Category} {id found : String} {configured : List String}

/-- The empty id stands for the first profile of the category, -/
lemma resolveProfile_blank :
    resolveProfile c "" configured = .ok (configured.headD defaultProfile) := rfl

/-- and any other one for itself, if it is configured. -/
lemma resolveProfile_given (given : id ≠ "") :
    resolveProfile c id configured
      = if id ∈ configured then .ok id else .error (.unknownProfile c id) := by
  rw [resolveProfile, if_neg (by simpa using given)]

/-- In a category with profiles, what an id stands for is configured and stands for itself. -/
lemma resolveProfile_self (more : configured ≠ [])
    (resolved : resolveProfile c id configured = .ok found) :
    found ∈ configured ∧ resolveProfile c found configured = .ok found := by
  by_cases blank : id = ""
  · obtain ⟨first, rest, rfl⟩ := List.exists_cons_of_ne_nil more
    rw [blank, resolveProfile_blank] at resolved
    obtain rfl : first = found := Except.ok.inj resolved
    refine ⟨List.mem_cons_self, ?_⟩
    -- the empty id may itself be the first one of the category
    by_cases again : first = ""
    · rw [again]
      rfl
    · rw [resolveProfile_given again, if_pos List.mem_cons_self]
  · rw [resolveProfile_given blank] at resolved
    split at resolved
    · next mem =>
        obtain rfl := Except.ok.inj resolved
        exact ⟨mem, by rw [resolveProfile_given blank, if_pos mem]⟩
    · cases resolved

/-- In a category without profiles only the empty id stands for something, and not for itself. -/
lemma resolveProfile_nil (resolved : resolveProfile c id [] = .ok found) :
    id = "" ∧ found = defaultProfile
      ∧ resolveProfile c found [] = .error (.unknownProfile c found) := by
  by_cases blank : id = ""
  · rw [blank, resolveProfile_blank] at resolved
    obtain rfl : defaultProfile = found := Except.ok.inj resolved
    refine ⟨blank, rfl, ?_⟩
    rw [resolveProfile_given (by decide), if_neg List.not_mem_nil]
  · rw [resolveProfile_given blank, if_neg List.not_mem_nil] at resolved
    cases resolved

/-- What comes of asking for a profile again, by the id `own` that it carries, after it was handed
out for `id`: where the category has profiles it is one of them and handed out again; where it has
none, the empty id was asked for and the default one is refused. -/
structure FoundAgain (c : Category) (configured : List String) (id own : String) (profile : α)
    (again : Except ConfigError α) : Prop where
  known : configured ≠ [] → own ∈ configured ∧ again = .ok profile
  fallback : configured = [] →
    id = "" ∧ own = defaultProfile ∧ again = .error (.unknownProfile c own)

/-- A profile that was looked up by an id, looked up by the id that it carries. -/
lemma foundAgain_resolveProfile {f : String → Except ConfigError α} {profile : α}
    (resolved : resolveProfile c id configured = .ok found) (yields : f found = .ok profile) :
    FoundAgain c configured id found profile (resolveProfile c found configured >>= f) := by
  refine ⟨fun more => ?_, fun bare => ?_⟩
  · obtain ⟨mem, self⟩ := resolveProfile_self more resolved
    rw [self]
    exact ⟨mem, yields⟩
  · subst bare
    obtain ⟨blank, fallback, refused⟩ := resolveProfile_nil resolved
    rw [refused]
    exact ⟨blank, fallback, rfl⟩

/-- A profile that carries the id that it is read for was found under the id that it carries. -/
lemma resolved_of_carried {f : String → Except ConfigError α} {carried : α → String} {profile : α}
    (own : ∀ found a, f found = .ok a → carried a = found)
    (answered : (resolveProfile c id configured >>= f) = .ok profile) :
    resolveProfile c id configured = .ok (carried profile) ∧ f (carried profile) = .ok profile := by
  cases resolved : resolveProfile c id configured with
  | error e =>
      rw [resolved] at answered
      cases answered
  | ok found =>
      rw [resolved] at answered
      have yields : f found = .ok profile := answered
      rw [own found profile yields]
      exact ⟨rfl, yields⟩

end lookups

/-! ### Policies and challenges -/

section answers

variable {t : Tenant} {store : Store} {id : String} {locale : Locale}

/-- A policy is the one of the profile whose id it carries. -/
lemma derive_policy_id {policy : PasswordPolicy}
    (answered : t.answer store (.passwordPolicy id locale) = .ok policy) :
    resolveProfile .passwordPolicy id (store.answer (.profileIds .passwordPolicy)) = .ok policy.id
      ∧ t.derive store (.policy policy.id locale) = .ok policy := by
  refine resolved_of_carried (f := fun id => t.derive store (.policy id locale))
    (fun found a yields => ?_) answered
  rw [derive, result_buildPolicy] at yields
  exact (PasswordPolicy.meets_id _ locale).yields yields

/-- A challenge is the one of the profile whose id it carries. -/
lemma read_challenge_id {challenge : ChallengeProfile}
    (answered : t.answer store (.challengeProfile id locale) = .ok challenge) :
    resolveProfile .challengePolicy id (store.answer (.profileIds .challengePolicy))
        = .ok challenge.id
      ∧ (ChallengeProfile.read (t.reader (some challenge.id)) locale).result store
        = .ok challenge :=
  resolved_of_carried
    (f := fun id => (ChallengeProfile.read (t.reader (some id)) locale).result store)
    (fun _ _ yields => (ChallengeProfile.meets_id _ locale).yields yields) answered

/-- Once a policy was handed out it is kept under the id that it carries. -/
lemma kept?_memoryAfter_policy {policy : PasswordPolicy} (before between : List Request)
    (answered : t.answer store (.passwordPolicy id locale) = .ok policy) :
    (t.memoryAfter store .empty (before ++ .passwordPolicy id locale :: between)).kept?
      (.policy policy.id locale) = some policy := by
  obtain ⟨resolved, derived⟩ := derive_policy_id answered
  have fresh := sound_memoryAfter (Memory.sound_empty t store) before
  obtain ⟨value, sound, -⟩ := t.serve_yields store (.passwordPolicy id locale) _ fresh
  have rests : Call.RestsOn store (.policy policy.id locale) [.profileIds .passwordPolicy]
      (Request.call t (.passwordPolicy id locale)) := t.passwordPolicy_restsOn resolved locale
  obtain ⟨v, kept⟩ := Option.isSome_iff_exists.mp (rests.kept (by rw [value, answered]; rfl))
  -- a sound memory keeps nothing but the policy that the store yields
  have same : v = policy := Except.ok.inj ((sound.kept kept).symm.trans derived)
  rw [same] at kept
  rw [memoryAfter, List.foldl_append]
  exact within_memoryAfter sound between _ _ kept

end answers

/-- Whatever was asked before and in between, a policy or a challenge that was handed out is handed
out again for the id that it carries where its category has profiles: the policy out of the memory,
which stays as it is, so that nothing is built. Where the category has none, the empty id was asked
for, and the default one that the answer carries is refused. -/
theorem serve_own_id (t : Tenant) (store : Store) (before between : List Request) (id : String)
    (locale : Locale) :
    (∀ policy, (t.serve store (t.memoryAfter store .empty before)
          (.passwordPolicy id locale)).value.1 = .ok policy →
        FoundAgain .passwordPolicy (store.answer (.profileIds .passwordPolicy)) id policy.id policy
            (t.serve store (t.memoryAfter store .empty
                (before ++ .passwordPolicy id locale :: between))
              (.passwordPolicy policy.id locale)).value.1
          ∧ (store.answer (.profileIds .passwordPolicy) ≠ [] →
            t.serve store (t.memoryAfter store .empty
                (before ++ .passwordPolicy id locale :: between))
              (.passwordPolicy policy.id locale)
                = ⟨(.ok policy, t.memoryAfter store .empty
                    (before ++ .passwordPolicy id locale :: between)),
                  [.profileIds .passwordPolicy], []⟩))
      ∧ ∀ challenge, (t.serve store (t.memoryAfter store .empty before)
            (.challengeProfile id locale)).value.1 = .ok challenge →
          FoundAgain .challengePolicy (store.answer (.profileIds .challengePolicy)) id challenge.id
            challenge (t.serve store (t.memoryAfter store .empty
                (before ++ .challengeProfile id locale :: between))
              (.challengeProfile challenge.id locale)).value.1 := by
  refine ⟨fun policy answered => ?_, fun challenge answered => ?_⟩
  · rw [t.serve_memoryAfter_eq_answer] at answered
    obtain ⟨resolved, derived⟩ := derive_policy_id answered
    refine ⟨?_, fun more => ?_⟩
    · rw [t.serve_memoryAfter_eq_answer]
      exact foundAgain_resolveProfile resolved derived
    -- the id that a policy carries stands for itself, and the policy is kept under it
    · obtain ⟨-, self⟩ := resolveProfile_self more resolved
      rw [serve, Request.call, t.carryOut_passwordPolicy self, t.carryOut_keptPolicy,
        Memory.lookUp_eq_of_kept (kept?_memoryAfter_policy before between answered)]
  · rw [t.serve_memoryAfter_eq_answer] at answered
    -- challenges are not kept, so all that there is to use is the id
    obtain ⟨resolved, read⟩ := read_challenge_id answered
    rw [t.serve_memoryAfter_eq_answer]
    exact foundAgain_resolveProfile resolved read

/-- The policy and the challenge of the empty id, and of the profiles that it stands for. -/
theorem serve_own_id_configured :
    let store := ((Snapshot.empty.addProfile .passwordPolicy "strict").addProfile
      .challengePolicy "questions").store
    let t : Tenant := ⟨"example.org", .default, fun _ _ => 0⟩
    (∃ policy, (t.serve store (t.memoryAfter store .empty [.digest])
          (.passwordPolicy "" .root)).value.1 = .ok policy
        ∧ policy.id = "strict"
        ∧ (t.serve store (t.memoryAfter store .empty
              ([.digest] ++ .passwordPolicy "" .root :: [.directories]))
            (.passwordPolicy policy.id .root)).value.1 = .ok policy)
      ∧ ∃ challenge, (t.serve store (t.memoryAfter store .empty [.digest])
            (.challengeProfile "" .root)).value.1 = .ok challenge
          ∧ challenge.id = "questions"
          ∧ (t.serve store (t.memoryAfter store .empty
                ([.digest] ++ .challengeProfile "" .root :: [.directories]))
              (.challengeProfile challenge.id .root)).value.1 = .ok challenge := by
  intro store t
  obtain ⟨policies, challenges⟩ := t.serve_own_id store [.digest] [.directories] "" .root
  obtain ⟨policy, handed⟩ : ∃ policy, t.answer store (.passwordPolicy "" .root) = .ok policy :=
    ⟨_, rfl⟩
  obtain ⟨challenge, handed'⟩ : ∃ challenge,
      t.answer store (.challengeProfile "" .root) = .ok challenge := ⟨_, rfl⟩
  rw [← t.serve_memoryAfter_eq_answer store [.digest]] at handed handed'
  obtain ⟨mem, again⟩ := (policies policy handed).1.known (by decide)
  obtain ⟨mem', again'⟩ := (challenges challenge handed').known (by decide)
  exact ⟨⟨policy, handed, List.mem_singleton.mp mem, again⟩,
    ⟨challenge, handed', List.mem_singleton.mp mem', again'⟩⟩

/-- In a store that holds nothing the empty id is answered, and the id that the answer carries is
not. -/
theorem serve_own_id_unconfigured :
    let store := Snapshot.empty.store
    let t : Tenant := ⟨"example.org", .default, fun _ _ => 0⟩
    (∃ policy, (t.serve store (t.memoryAfter store .empty [])
          (.passwordPolicy "" .root)).value.1 = .ok policy
        ∧ policy.id = "default"
        ∧ (t.serve store (t.memoryAfter store .empty [.passwordPolicy "" .root])
            (.passwordPolicy policy.id .root)).value.1
          = .error (.unknownProfile .passwordPolicy "default"))
      ∧ ∃ challenge, (t.serve store (t.memoryAfter store .empty [])
            (.challengeProfile "" .root)).value.1 = .ok challenge
          ∧ challenge.id = "default"
          ∧ (t.serve store (t.memoryAfter store .empty [.challengeProfile "" .root])
              (.challengeProfile challenge.id .root)).value.1
            = .error (.unknownProfile .challengePolicy "default") := by
  intro store t
  simp only [t.serve_memoryAfter_eq_answer]
  exact ⟨⟨_, rfl, rfl, rfl⟩, ⟨_, rfl, rfl, rfl⟩⟩

end Tenant

end TenantSettings

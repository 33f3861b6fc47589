import TenantSettings.Proofs.Tenant.Soundness
import TenantSettings.Store.Snapshot

/-!
# What is computed once

Once a request was answered with something that is kept, the store is left alone: every later
request for the same thing asks it nothing, whatever was asked in between.  A password policy is
looked up under the profile that its id stands for, so that finding the profile is one question
every time.

* `Request.derived?`: what a request is answered from, if it is something that is kept.
* `Call.RestsOn`: a call that keeps what it is answered from, and consults the store no further once
  that is there; closed under working on the answer (`RestsOn.bind`).
* `Tenant.asked_again`: what a request asks when its answer was computed before.
-/

namespace TenantSettings

/-- What a request is answered from, if that is kept.  Several requests may be answered from one
thing: the directories in use and the first of them, or the policy of a profile under the empty id
and under its own. -/
def Request.derived? (store : Store) : Request → Option Derived
  | .profiles d => some (.profiles d)
  | .profilesOf k => some (.profiles (.ofKind k))
  | .directories => some .directories
  | .defaultDirectory => some .directories
  | .passwordPolicy profile locale =>
    match Tenant.resolveProfile .passwordPolicy profile
        (store.answer (.profileIds .passwordPolicy)) with
    | .ok id => some (.policy id locale)
    | .error _ => none
  | .securityKey => some .key
  | .localizedBundle b key => some (.bundle b key)
  | .digest => some .digest
  | _ => none

/-- What is asked to find something that is kept. -/
def Derived.consultations : Derived → List Question
  | .policy _ _ => [.profileIds .passwordPolicy]
  | _ => []

/-! ### Calls that are answered from one kept value -/

namespace Call

open Memory

variable {α β : Type} {store : Store} {x : Derived} {again : List Question}

/-- The call asks only the questions `again` where `x` is kept, and where it succeeds it keeps
`x`. -/
structure RestsOn (store : Store) (x : Derived) (again : List Question) (c : Call α) : Prop where
  asked : ∀ {m : Memory}, (m.kept? x).isSome → (c.carryOut store m).asked = again
  kept : ∀ {m : Memory}, (c.carryOut store m).value.1.isOk →
    ((c.carryOut store m).value.2.kept? x).isSome

namespace RestsOn

/-- A call whose value is kept. -/
lemma lookUp {call init : Call x.Value}
    (look : ∀ m, call.carryOut store m = m.lookUp x (init.carryOut store m)) :
    RestsOn store x [] call where
  asked {m} hit := by
    obtain ⟨v, hv⟩ := Option.isSome_iff_exists.mp hit
    rw [look, lookUp_eq_of_kept hv]
  kept {m} answered := by
    rw [look] at answered ⊢
    -- it was answered, so the look-up has a value, and keeps it
    cases hv : (m.lookUp x (init.carryOut store m)).value.1 with
    | error e =>
        rw [hv] at answered
        cases answered
    | ok v =>
        rw [kept?_lookUp hv]
        rfl

/-- Work on the answer that neither asks nor keeps anything. -/
lemma bind {c : Call α} {f : α → Call β} (hc : RestsOn store x again c)
    (idle : ∀ a m, ((f a).carryOut store m).asked = [] ∧ ((f a).carryOut store m).value.2 = m) :
    RestsOn store x again (c >>= f) where
  asked {m} hit := by
    have first := hc.asked hit
    rw [carryOut_bind]
    revert first
    rcases c.carryOut store m with ⟨⟨value, m'⟩, asked, events⟩
    rintro rfl
    cases value with
    | error e => rfl
    | ok a => simp [(idle a m').1]
  kept {m} answered := by
    have first : (c.carryOut store m).value.1.isOk →
        ((c.carryOut store m).value.2.kept? x).isSome := hc.kept
    rw [carryOut_bind] at answered ⊢
    revert answered first
    rcases c.carryOut store m with ⟨⟨value, m'⟩, asked, events⟩
    intro answered first
    cases value with
    | error e => cases answered
    | ok a =>
        show (((f a).carryOut store m').value.2.kept? x).isSome
        rw [(idle a m').2]
        exact first rfl

end RestsOn

end Call

/-! ### The requests of a tenant -/

namespace Tenant

open Call

variable (t : Tenant) {store : Store}

lemma profilesAs_restsOn (k : ProfileKind) (d : Definition) :
    RestsOn store (.profiles d) [] (t.profilesAs k d) :=
  (RestsOn.lookUp fun m => t.carryOut_profiles store m d).bind fun _ _ => ⟨rfl, rfl⟩

lemma directories_restsOn : RestsOn store .directories [] t.directories :=
  .lookUp (t.carryOut_directories store)

lemma defaultDirectory_restsOn : RestsOn store .directories [] t.defaultDirectory := by
  refine t.directories_restsOn.bind fun enabled m => ?_
  cases enabled.values.head? with
  | none => exact ⟨rfl, rfl⟩
  | some directory => exact ⟨rfl, rfl⟩

/-- The policy of an id that stands for a profile is that of the profile, found with one
question. -/
lemma carryOut_passwordPolicy {profile id : String}
    (resolved : resolveProfile .passwordPolicy profile
      (store.answer (.profileIds .passwordPolicy)) = .ok id) (locale : Locale) (m : Memory) :
    (t.passwordPolicy profile locale).carryOut store m =
      let policy := (t.keptPolicy id locale).carryOut store m
      ⟨policy.value, .profileIds .passwordPolicy :: policy.asked, policy.events⟩ := by
  have ids : (t.profileIds .passwordPolicy).carryOut store m
      = ⟨(.ok (store.answer (.profileIds .passwordPolicy)), m),
          [.profileIds .passwordPolicy], []⟩ := rfl
  have found : (Call.ofRead (Read.ofExcept (.ok id))).carryOut store m
      = ⟨(.ok id, m), [], []⟩ := rfl
  rw [passwordPolicy, carryOut_bind, ids]
  dsimp only
  rw [carryOut_bind, resolved, found]
  rfl

lemma passwordPolicy_restsOn {profile id : String}
    (resolved : resolveProfile .passwordPolicy profile
      (store.answer (.profileIds .passwordPolicy)) = .ok id) (locale : Locale) :
    RestsOn store (.policy id locale) [.profileIds .passwordPolicy]
      (t.passwordPolicy profile locale) := by
  have policy : RestsOn store (.policy id locale) [] (t.keptPolicy id locale) :=
    .lookUp fun m => t.carryOut_keptPolicy store m id locale
  refine ⟨fun {m} hit => ?_, fun {m} answered => ?_⟩
  · rw [t.carryOut_passwordPolicy resolved]
    exact congrArg _ (policy.asked hit)
  · rw [t.carryOut_passwordPolicy resolved] at answered ⊢
    exact policy.kept answered

/-- Every request that is answered from something kept rests on it. -/
lemma call_restsOn {r : Request} {x : Derived} (h : r.derived? store = some x) :
    RestsOn store x x.consultations (r.call t) := by
  -- each case makes the thing that is kept explicit; no other request is answered from one
  cases r with
  | profiles d =>
      cases h
      exact .lookUp fun m => t.carryOut_profiles store m d
  | profilesOf k =>
      cases h
      exact t.profilesAs_restsOn k (.ofKind k)
  | directories =>
      cases h
      exact t.directories_restsOn
  | defaultDirectory =>
      cases h
      exact t.defaultDirectory_restsOn
  | passwordPolicy profile locale =>
      cases resolved : resolveProfile .passwordPolicy profile
          (store.answer (.profileIds .passwordPolicy)) with
      | ok id =>
          rw [Request.derived?, resolved] at h
          cases h
          exact t.passwordPolicy_restsOn resolved locale
      | error e =>
          rw [Request.derived?, resolved] at h
          cases h
  | securityKey =>
      cases h
      exact .lookUp (t.carryOut_securityKey store)
  | localizedBundle b key =>
      cases h
      exact .lookUp fun m => t.carryOut_localizedBundle store m b key
  | digest =>
      cases h
      exact .lookUp (t.carryOut_digest store)
  | _ => cases h

/-- Once a request was answered, every later request that is answered from the same thing consults
the store no further, whatever came before and in between: a password policy takes the one question
which profile is meant, everything else takes none. -/
theorem asked_again (before between : List Request) {q r : Request} {x : Derived}
    (hq : q.derived? store = some x) (hr : r.derived? store = some x)
    (answered : (t.serve store (t.memoryAfter store .empty before) q).value.1.isOk) :
    (t.serve store (t.memoryAfter store .empty (before ++ q :: between)) r).asked
      = x.consultations := by
  have sound := sound_memoryAfter (Memory.sound_empty t store) before
  have served := (t.serve_yields store q _ sound).2.1
  -- what the answer left behind is still there after the requests in between
  obtain ⟨v, kept⟩ := Option.isSome_iff_exists.mp ((t.call_restsOn hq).kept answered)
  have later := within_memoryAfter served between x v kept
  have run : t.memoryAfter store .empty (before ++ q :: between)
      = t.memoryAfter store (t.serve store (t.memoryAfter store .empty before) q).value.2
          between := by
    simp [memoryAfter]
  refine (t.call_restsOn hr).asked (Option.isSome_iff_exists.mpr ⟨v, ?_⟩)
  rw [run]
  exact later

/-- The policy of the empty id, and after other requests that of the profile it stands for. -/
theorem asked_again_by_other_id :
    let store := (Snapshot.empty.addProfile .passwordPolicy "corporate").store
    let t : Tenant := ⟨"example.org", .default, fun _ _ => 0⟩
    (t.serve store (t.memoryAfter store .empty [.digest]) (.passwordPolicy "" .root)).value.1.isOk ∧
      (t.serve store (t.memoryAfter store .empty
          ([.digest] ++ .passwordPolicy "" .root :: [.directories, .securityKey]))
        (.passwordPolicy "corporate" .root)).asked = [.profileIds .passwordPolicy] := by
  intro store t
  have answered : (t.serve store (t.memoryAfter store .empty [.digest])
      (.passwordPolicy "" .root)).value.1.isOk := by
    decide +kernel
  exact ⟨answered, t.asked_again [.digest] [.directories, .securityKey]
    (x := .policy "corporate" .root) rfl rfl answered⟩

end Tenant

end TenantSettings

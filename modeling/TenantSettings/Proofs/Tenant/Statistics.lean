import TenantSettings.Proofs.OrderedMap
import TenantSettings.Proofs.Tenant.Holdings
import TenantSettings.Proofs.Tenant.Slots
import TenantSettings.Store.Snapshot

/-!
# How much is held

The counts of a memory are exact. After any run they can be read off the requests and what came of
them, whatever the store answers: nothing is counted twice, and nothing that failed is counted.

* `Request.policy?`, `Request.bundleKey?`, `Request.definition?`: what a request is counted under.
* `Tenant.answered`: the requests of a run that do not fail.
* `Memory.Stats.AtMost`: counts that are no greater than others.
* `Tenant.stats_memoryAfter`: the counts after a run, how they grow, and what leaves them alone.
-/

namespace TenantSettings

/-! ### What is counted -/

namespace Request

/-- The profile and the locale of the policy that a request asks for, where its id stands for a
profile. -/
def policy? (store : Store) : Request → Option (String × Locale)
  | .passwordPolicy profile locale =>
    match Tenant.resolveProfile .passwordPolicy profile
        (store.answer (.profileIds .passwordPolicy)) with
    | .ok id => some (id, locale)
    | .error _ => none
  | _ => none

/-- The bundle and the key whose texts a request asks for. -/
def bundleKey? : Request → Option (Bundle × String)
  | .localizedBundle b key => some (b, key)
  | _ => none

lemma bundleKey?_eq_some_iff {r : Request} {b : Bundle} {key : String} :
    r.bundleKey? = some (b, key) ↔ r = .localizedBundle b key := by
  cases r <;> simp [bundleKey?]

/-- The definition whose map of profiles a request needs, for itself or to select from it. -/
def definition? (t : Tenant) (store : Store) : Request → Option Definition
  | .profiles d => some d
  | .profilesOf k => some (.ofKind k)
  | .directories | .defaultDirectory => some .ldap
  | .publicPeopleSearch => if t.opensSearch store then some .peopleSearchPublic else none
  | _ => none

section fills

variable {t : Tenant} {store : Store} {r : Request}

/-- A policy is left behind by the requests for it that are answered. -/
lemma policy_mem_fills {id : String} {locale : Locale} :
    .policy id locale ∈ r.fills t store
      ↔ r.policy? store = some (id, locale) ∧ (t.answer store r).isOk := by
  rw [fills, List.mem_filter]
  cases r with
  | passwordPolicy profile wanted =>
      simp only [needs, policy?, Tenant.answer]
      -- the id decides which policy is meant; where it cannot be resolved there is none
      cases resolved : Tenant.resolveProfile .passwordPolicy profile
          (store.answer (.profileIds .passwordPolicy)) with
      | error e => simp
      | ok own =>
          simp only [List.mem_singleton, Derived.policy.injEq, Option.some.injEq, Prod.mk.injEq]
          constructor
          · rintro ⟨⟨rfl, rfl⟩, derived⟩
            exact ⟨⟨rfl, rfl⟩, derived⟩
          · rintro ⟨⟨rfl, rfl⟩, answered⟩
            exact ⟨⟨rfl, rfl⟩, answered⟩
  | publicPeopleSearch =>
      simp only [needs]
      split <;> simp [policy?]
  | _ => simp [needs, policy?]

/-- Texts are left behind by the requests for them, all of which are answered. -/
lemma bundle_mem_fills {b : Bundle} {key : String} :
    .bundle b key ∈ r.fills t store ↔ r.bundleKey? = some (b, key) := by
  rw [fills, List.mem_filter]
  cases r with
  | localizedBundle own wanted =>
      have derived : (t.derive store (.bundle b key)).isOk = true := rfl
      simp [needs, bundleKey?, derived, eq_comm]
  | publicPeopleSearch | passwordPolicy profile locale =>
      simp only [needs]
      split <;> simp [bundleKey?]
  | _ => simp [needs, bundleKey?]

/-- A map is left behind by the requests that need it, if it can be built. -/
lemma profiles_mem_fills {d : Definition} :
    .profiles d ∈ r.fills t store
      ↔ r.definition? t store = some d ∧ ((t.buildProfiles d).result store).isOk := by
  rw [fills, List.mem_filter]
  refine and_congr ?_ Iff.rfl
  cases r with
  | publicPeopleSearch | passwordPolicy profile locale =>
      simp only [needs, definition?]
      split <;> simp [eq_comm]
  | _ => simp [needs, definition?, eq_comm]

/-- The key is left behind by the requests for it that are answered. -/
lemma key_mem_fills :
    .key ∈ r.fills t store ↔ r = .securityKey ∧ (t.answer store r).isOk := by
  rw [fills, List.mem_filter]
  cases r with
  | securityKey => simp [needs, Tenant.answer]
  | publicPeopleSearch | passwordPolicy profile locale =>
      simp only [needs]
      split <;> simp
  | _ => simp [needs]

end fills

end Request

/-! ### Requests that are answered -/

namespace Tenant

variable {t : Tenant} {store : Store}

/-- The requests of a run that are answered, those that fail left out. -/
def answered (t : Tenant) (store : Store) (m : Memory) : List Request → List Request
  | [] => []
  | r :: rest =>
    let served := t.serve store m r
    let later := t.answered store served.value.2 rest
    if served.value.1.isOk then r :: later else later

/-- From a sound memory, those are answered that are answered without one. -/
lemma answered_eq_filter {m : Memory} (h : m.Sound t store) (requests : List Request) :
    t.answered store m requests = requests.filter fun r => (t.answer store r).isOk := by
  induction requests generalizing m with
  | nil => rfl
  | cons r rest ih =>
      obtain ⟨value, sound, -⟩ := t.serve_yields store r m h
      have value : (t.serve store m r).value.1 = t.answer store r := value
      have later : t.answered store (t.serve store m r).value.2 rest = _ := ih sound
      rw [answered, List.filter_cons, value, later]

end Tenant

/-! ### The counts -/

namespace Memory

/-- No count of the first is greater than that of the second, and a key that is there stays. -/
structure Stats.AtMost (s s' : Stats) : Prop where
  policies : s.policies ≤ s'.policies
  bundles : s.bundles ≤ s'.bundles
  profiles : s.profiles ≤ s'.profiles
  key : s.key = true → s'.key = true

lemma Stats.AtMost.antisymm {s s' : Stats} (h : s.AtMost s') (h' : s'.AtMost s) : s = s' := by
  obtain ⟨policies, bundles, profiles, key⟩ := s
  obtain ⟨policies', bundles', profiles', key'⟩ := s'
  rw [Stats.mk.injEq]
  exact ⟨Nat.le_antisymm h.policies h'.policies, Nat.le_antisymm h.bundles h'.bundles,
    Nat.le_antisymm h.profiles h'.profiles, Bool.eq_iff_iff.mpr ⟨h.key, h'.key⟩⟩

/-- A memory that holds no less counts no less. -/
lemma stats_atMost {m m' : Memory} (named : m.Named)
    (held : ∀ x, x ≠ .keyText → (m.kept? x).isSome → (m'.kept? x).isSome) :
    m.stats.AtMost m'.stats where
  policies := Slots.computed_le fun p found => held (.policy p.1 p.2) (by simp) found
  bundles := by
    refine Slots.computed_le fun name found => ?_
    obtain ⟨b, key, rfl⟩ := named name found
    exact held (.bundle b key) (by simp) found
  profiles := Slots.computed_le fun d found => held (.profiles d) (by simp) found
  key := held .key (by simp)

end Memory

namespace Tenant

open Memory

variable (t : Tenant) (store : Store) (requests : List Request)

/-- What a run on a fresh tenant leaves behind is what its requests need, as far as the store yields
it. -/
lemma held_memoryAfter_iff {x : Derived} (hx : x ≠ .keyText) :
    ((t.memoryAfter store .empty requests).kept? x).isSome
      ↔ ∃ r ∈ requests, x ∈ r.fills t store := by
  rw [kept?_memoryAfter_iff (settled_empty t store) requests hx]
  simp

/-- There is one policy for each profile and locale that a policy was answered for, -/
lemma policies_memoryAfter :
    (t.memoryAfter store .empty requests).stats.policies
      = ((t.answered store .empty requests).filterMap (Request.policy? store)).toFinset.card := by
  refine Slots.computed_eq_card _ fun p => ?_
  have held : ((t.memoryAfter store .empty requests).policies.slot p).isFilled
      ↔ ∃ r ∈ requests, .policy p.1 p.2 ∈ r.fills t store :=
    t.held_memoryAfter_iff store requests (x := .policy p.1 p.2) (by simp)
  rw [held, answered_eq_filter (sound_empty t store), List.mem_toFinset]
  simp only [Request.policy_mem_fills, List.mem_filterMap, List.mem_filter]
  constructor
  · rintro ⟨r, mem, meant, answered⟩
    exact ⟨r, ⟨mem, answered⟩, meant⟩
  · rintro ⟨r, ⟨mem, answered⟩, meant⟩
    exact ⟨r, mem, meant, answered⟩

/-- one entry for each bundle key that was asked for, -/
lemma bundles_memoryAfter :
    (t.memoryAfter store .empty requests).stats.bundles
      = (requests.filterMap Request.bundleKey?).toFinset.card := by
  -- slots go by names, and what is counted are bundle keys, which have one name each
  have distinct : Function.Injective fun p : Bundle × String => ItemKey.bundleId p.1 p.2 := by
    intro p q same
    obtain ⟨bundles, keys⟩ := ItemKey.bundleId_inj same
    exact Prod.ext bundles keys
  have settled := settled_memoryAfter (settled_empty t store) requests
  have held : ∀ b key,
      ((t.memoryAfter store .empty requests).bundles.slot (ItemKey.bundleId b key)).isFilled
        ↔ ∃ r ∈ requests, r.bundleKey? = some (b, key) := by
    intro b key
    refine (t.held_memoryAfter_iff store requests (x := .bundle b key) (by simp)).trans ?_
    simp [Request.bundle_mem_fills]
  rw [← Finset.card_image_of_injective _ distinct]
  refine Slots.computed_eq_card _ fun name => ?_
  simp only [Finset.mem_image, List.mem_toFinset, List.mem_filterMap, Prod.exists]
  constructor
  · intro found
    obtain ⟨b, key, rfl⟩ := settled.named name found
    exact ⟨b, key, (held b key).mp found, rfl⟩
  · rintro ⟨b, key, asked, rfl⟩
    exact (held b key).mpr asked

/-- one map for each definition whose map was needed and can be built, -/
lemma profiles_memoryAfter :
    (t.memoryAfter store .empty requests).stats.profiles
      = ((requests.filterMap (Request.definition? t store)).toFinset.filter fun d =>
          ((t.buildProfiles d).result store).isOk).card := by
  refine Slots.computed_eq_card _ fun d => ?_
  have held : ((t.memoryAfter store .empty requests).profiles.slot d).isFilled
      ↔ ∃ r ∈ requests, .profiles d ∈ r.fills t store :=
    t.held_memoryAfter_iff store requests (x := .profiles d) (by simp)
  rw [held, Finset.mem_filter, List.mem_toFinset]
  simp only [Request.profiles_mem_fills, List.mem_filterMap]
  constructor
  · rintro ⟨r, mem, needed, built⟩
    exact ⟨⟨r, mem, needed⟩, built⟩
  · rintro ⟨⟨r, mem, needed⟩, built⟩
    exact ⟨r, mem, needed, built⟩

/-- and a key if one was answered. -/
lemma key_memoryAfter :
    (t.memoryAfter store .empty requests).stats.key = true
      ↔ .securityKey ∈ t.answered store .empty requests := by
  refine (t.held_memoryAfter_iff store requests (x := .key) (by simp)).trans ?_
  rw [answered_eq_filter (sound_empty t store), List.mem_filter]
  constructor
  · rintro ⟨r, mem, filled⟩
    obtain ⟨rfl, answered⟩ := Request.key_mem_fills.mp filled
    exact ⟨mem, answered⟩
  · rintro ⟨mem, answered⟩
    exact ⟨.securityKey, mem, Request.key_mem_fills.mpr ⟨rfl, answered⟩⟩

/-- Where a request leaves nothing behind, the counts stay. -/
lemma stats_serve_of_fills_eq_nil {m : Memory} (h : m.Settled t store) {r : Request}
    (nothing : r.fills t store = []) : (t.serve store m r).value.2.stats = m.stats := by
  obtain ⟨named, held⟩ := t.fills_call store r m h
  refine (stats_atMost named fun x hx found => ?_).antisymm
    (stats_atMost h.named fun x hx found => (held x hx).mpr (.inl found))
  simpa [nothing] using (held x hx).mp found

/-- After any run of requests on a fresh tenant, over any store, the counts are exact. There is one
policy for each profile and locale that a policy was answered for, one entry for each bundle key
that was asked for, one map for each definition whose map was needed and can be built, and a key if
one was answered. From then on no count ever decreases, and a request that fails changes none of
them, unless all it misses is a directory in use. -/
theorem stats_memoryAfter (t : Tenant) (store : Store) (requests : List Request) :
    let m := t.memoryAfter store .empty requests
    let answered := t.answered store .empty requests
    m.stats.policies = (answered.filterMap (Request.policy? store)).toFinset.card
      ∧ m.stats.bundles = (requests.filterMap Request.bundleKey?).toFinset.card
      ∧ m.stats.profiles
        = ((requests.filterMap (Request.definition? t store)).toFinset.filter fun d =>
            ((t.buildProfiles d).result store).isOk).card
      ∧ (m.stats.key = true ↔ .securityKey ∈ answered)
      ∧ (∀ more, m.stats.AtMost (t.memoryAfter store m more).stats)
      ∧ ∀ r e, (t.serve store m r).value.1 = .error e →
          (r = .defaultDirectory → e ≠ .ofCause .noEnabledDirectory) →
          (t.serve store m r).value.2.stats = m.stats := by
  intro m answered
  have settled : m.Settled t store := settled_memoryAfter (settled_empty t store) requests
  refine ⟨t.policies_memoryAfter store requests, t.bundles_memoryAfter store requests,
    t.profiles_memoryAfter store requests, t.key_memoryAfter store requests, fun more => ?_,
    fun r e failed missing => ?_⟩
  -- no count decreases, since what is held stays held, and counts count what is held
  · refine stats_atMost settled.named fun x _ found => ?_
    obtain ⟨v, held⟩ := Option.isSome_iff_exists.mp found
    rw [within_memoryAfter settled.sound more x v held]
    rfl
  · have unanswered : t.answer store r = .error e :=
      (t.serve_memoryAfter_eq_answer store requests r).symm.trans failed
    exact t.stats_serve_of_fills_eq_nil store settled (Request.fills_eq_nil unanswered missing)

/-- Without any profile there is no directory in use, but the map was built and is counted. -/
example :
    let store := Snapshot.empty.store
    let t : Tenant := ⟨"example.org", .default, fun _ _ => 0⟩
    (t.serve store .empty .defaultDirectory).value.1.isOk = false
      ∧ (t.memoryAfter store .empty [.defaultDirectory]).stats = ⟨0, 0, 1, false⟩ := by
  decide

end Tenant

end TenantSettings

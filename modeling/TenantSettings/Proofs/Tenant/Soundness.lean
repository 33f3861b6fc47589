import TenantSettings.Proofs.Read
import TenantSettings.Proofs.Tenant.Memory

/-!
# Sound memories

A memory is sound when everything it holds is what the store yields for it.  A fresh memory is
sound, and every request leaves a sound memory that holds at least as much as before.

* `Tenant.derive`: what a store yields for everything that is kept, computed without a memory.
* `Memory.Sound`: the invariant; `Memory.Within`: nothing that is held is ever lost.
* `Call.Yields`: from every sound memory a call gives the same result, and keeps the invariant;
  closed under sequence (`Yields.bind`) and under keeping the value (`Yields.lookUp`).
* `Tenant.answer`: what a request is answered by without a memory; `Tenant.serve_yields`: with any
  sound memory it is answered the same.
* `Tenant.sound_memoryAfter`, `Tenant.within_memoryAfter`: what a run of requests leaves;
  `Tenant.serve_memoryAfter_eq_answer`: what a request after it is answered by.
-/

namespace TenantSettings

/-! ### Values without a memory -/

namespace Tenant

/-- What a store yields for something that is kept. A generated key text is the first one drawn. -/
def derive (t : Tenant) (store : Store) : (x : Derived) → Except ConfigError x.Value
  | .profiles d => (t.buildProfiles d).result store
  | .directories => do
    let all ← (t.buildProfiles .ldap).result store
    return (ofKind .directory all).filterValues (·.enabled)
  | .policy id locale => (t.buildPolicy id locale).result store
  | .bundle b key => (readBundle b key).result store
  | .keyText => .ok (SecurityKey.drawText (t.words 0) t.properties.keyLength)
  | .key => do
    let stored ← (t.plain.password Schema.securityKey).result store
    match stored.filter (!·.isEmpty) with
    | none => return .ofText (SecurityKey.drawText (t.words 0) t.properties.keyLength) true
    | some secret =>
      if secret.length < t.properties.minKeyLength then
        .error (.ofCause (.shortKey t.properties.minKeyLength))
      else return .ofText secret.text false
  | .digest => computeDigest.result store

variable (t : Tenant) (store : Store)

/-- A profile comes to what its reader builds; a failure is only logged. -/
lemma result_buildProfile (d : Definition) (id : String) :
    (t.buildProfile d id).result store = (d.build (t.reader (some id))).result store := by
  rw [buildProfile, Read.result_tellError]

/-- The profiles of a definition are built one by one, in the configured order of their ids. -/
lemma result_buildProfiles (d : Definition) :
    (t.buildProfiles d).result store =
      match d.kind? with
      | none => .ok .empty
      | some _ => do
        let built ← (store.answer (.profileIds d.category)).mapM fun id => do
          return (id, ← (d.build (t.reader (some id))).result store)
        return .ofList built := by
  unfold buildProfiles
  cases d.kind? with
  | none => rfl
  | some k =>
      dsimp only
      rw [Read.result_bind, Read.result_ask, pure_bind]
      simp [result_buildProfile]

/-- A password policy comes to what its reader builds. -/
lemma result_buildPolicy (id : String) (locale : Locale) :
    (t.buildPolicy id locale).result store
      = (PasswordPolicy.read (t.reader (some id)) locale).result store := by
  simp [buildPolicy]

end Tenant

/-! ### The invariant -/

namespace Memory

/-- A memory that holds only what the store yields, and that has drawn a key text exactly if it
holds one. -/
structure Sound (t : Tenant) (store : Store) (m : Memory) : Prop where
  kept : ∀ {x : Derived} {v : x.Value}, m.kept? x = some v → t.derive store x = .ok v
  draws : m.draws = if (m.kept? .keyText).isSome then 1 else 0

/-- Whatever the first memory holds, the second holds as well. -/
def Within (m m' : Memory) : Prop :=
  ∀ (x : Derived) (v : x.Value), m.kept? x = some v → m'.kept? x = some v

lemma Within.refl (m : Memory) : m.Within m := fun _ _ h => h

lemma Within.trans {m m' m'' : Memory} (h : m.Within m') (h' : m'.Within m'') : m.Within m'' :=
  fun x v hv => h' x v (h x v hv)

/-- Something new replaces nothing that was held. -/
lemma Within.keep {m m' : Memory} (h : m.Within m') {x : Derived} (new : m.kept? x = none)
    (v : x.Value) : m.Within (m'.keep x v) := by
  intro y w hw
  have other : y ≠ x := by
    rintro rfl
    simp [new] at hw
  rw [kept?_keep_of_ne _ other]
  exact h y w hw

/-- An empty slot replaces nothing that was held. -/
lemma Within.touch {m m' : Memory} (h : m.Within m') (x : Derived) : m.Within (m'.touch x) :=
  fun y w hw => (kept?_touch m' x y).trans (h y w hw)

variable {t : Tenant} {store : Store}

/-- The memory that knows nothing yet is sound. -/
lemma sound_empty (t : Tenant) (store : Store) : empty.Sound t store :=
  ⟨fun h => by simp at h, by simp; rfl⟩

/-- Keeping what the store yields is sound. Key texts are set apart, since drawing one is
counted. -/
lemma Sound.keep {m : Memory} (h : m.Sound t store) {x : Derived} (hx : Derived.keyText ≠ x)
    {v : x.Value} (hv : t.derive store x = .ok v) : (m.keep x v).Sound t store := by
  refine ⟨fun {y w} hw => ?_, ?_⟩
  · by_cases same : y = x
    · subst same
      rw [kept?_keep_self, Option.some.injEq] at hw
      rw [hv, hw]
    · rw [kept?_keep_of_ne _ same] at hw
      exact h.kept hw
  · rw [draws_keep, kept?_keep_of_ne _ hx]
    exact h.draws

lemma Sound.touch {m : Memory} (h : m.Sound t store) (x : Derived) : (m.touch x).Sound t store := by
  refine ⟨fun {y w} hw => h.kept ((kept?_touch m x y).symm.trans hw), ?_⟩
  rw [draws_touch, kept?_touch]
  exact h.draws

end Memory

/-! ### Calls that a sound memory does not change -/

namespace Call

open Memory

variable {α β : Type} {t : Tenant} {store : Store}

/-- From every sound memory the call gives the result `a`, and it leaves a sound memory that holds
at least as much. -/
def Yields (t : Tenant) (store : Store) (x : Call α) (a : Except ConfigError α) : Prop :=
  ∀ m : Memory, m.Sound t store →
    (x.carryOut store m).value.1 = a
      ∧ (x.carryOut store m).value.2.Sound t store
      ∧ m.Within (x.carryOut store m).value.2

namespace Yields

lemma of_eq {x : Call α} {a b : Except ConfigError α} (h : Yields t store x a) (same : a = b) :
    Yields t store x b := same ▸ h

lemma pure (a : α) : Yields t store (Pure.pure a : Call α) (.ok a) :=
  fun m h => ⟨rfl, h, Within.refl m⟩

/-- A read does not look at the memory. -/
lemma ofRead (x : Read α) : Yields t store (Call.ofRead x) (x.result store) := by
  intro m h
  rw [carryOut_ofRead]
  exact ⟨rfl, h, Within.refl m⟩

/-- The failure of a call. -/
lemma fail (e : ConfigError) : Yields t store (Call.fail e : Call α) (.error e) :=
  ofRead (Read.fail e)

/-- One call after another. -/
lemma bind {x : Call α} {f : α → Call β} {a : Except ConfigError α} {b : α → Except ConfigError β}
    (hx : Yields t store x a) (hf : ∀ v, Yields t store (f v) (b v)) :
    Yields t store (x >>= f) (a >>= b) := by
  intro m h
  obtain ⟨value, sound, within⟩ := hx m h
  rw [carryOut_bind]
  revert value sound within
  rcases x.carryOut store m with ⟨⟨value, m'⟩, asked, events⟩
  rintro rfl sound within
  cases value with
  | error e => exact ⟨rfl, sound, within⟩
  | ok v =>
      obtain ⟨value', sound', within'⟩ := hf v m' sound
      exact ⟨value', sound', within.trans within'⟩

/-- A call whose value is kept, if computing it yields what the store yields. -/
lemma lookUp (x : Derived) (hx : Derived.keyText ≠ x) {call init : Call x.Value}
    (look : ∀ m, call.carryOut store m = m.lookUp x (init.carryOut store m))
    (hinit : Yields t store init (t.derive store x)) :
    Yields t store call (t.derive store x) := by
  intro m h
  rw [look m]
  cases hit : m.kept? x with
  | some v =>
      rw [lookUp_eq_of_kept hit]
      exact ⟨(h.kept hit).symm, h, Within.refl m⟩
  | none =>
      -- nothing is kept, so the value is computed first, which may itself keep other things
      obtain ⟨value, sound, within⟩ := hinit m h
      rw [lookUp_eq_of_not_kept hit]
      refine ⟨value, ?_, ?_⟩
      · rw [value]
        cases hv : t.derive store x with
        | ok v => exact sound.keep hx hv
        | error e => exact sound.touch x
      · rw [value]
        cases t.derive store x with
        | ok v => exact within.keep hit v
        | error e => exact within.touch x

end Yields

end Call

/-! ### The calls of a tenant -/

namespace Tenant

open Memory Call

variable (t : Tenant) (store : Store)

lemma profiles_yields (d : Definition) :
    Yields t store (t.profiles d) (t.derive store (.profiles d)) :=
  Yields.lookUp (.profiles d) (by simp) (fun m => t.carryOut_profiles store m d) (.ofRead _)

lemma localizedBundle_yields (b : Bundle) (key : String) :
    Yields t store (t.localizedBundle b key) (t.derive store (.bundle b key)) :=
  Yields.lookUp (.bundle b key) (by simp)
    (fun m => t.carryOut_localizedBundle store m b key) (.ofRead _)

lemma digest_yields : Yields t store t.digest (t.derive store .digest) :=
  Yields.lookUp .digest (by simp) (t.carryOut_digest store) (.ofRead _)

lemma profilesAs_yields (k : ProfileKind) (d : Definition) :
    Yields t store (t.profilesAs k d)
      (t.derive store (.profiles d) >>= fun all => .ok (ofKind k all)) :=
  (t.profiles_yields store d).bind fun all => .pure (ofKind k all)

lemma selectDirectories_yields :
    Yields t store t.selectDirectories (t.derive store .directories) := by
  have all := t.profilesAs_yields store .directory .ldap
  refine (all.bind (b := fun all => .ok (all.filterValues (·.enabled))) fun all => ?_).of_eq ?_
  · dsimp only
    split
    · exact (Yields.ofRead (Read.tell _)).bind fun _ => .pure _
    · exact .pure _
  · rw [derive, derive]
    cases (t.buildProfiles .ldap).result store <;> rfl

lemma directories_yields : Yields t store t.directories (t.derive store .directories) :=
  Yields.lookUp .directories (by simp) (t.carryOut_directories store)
    (t.selectDirectories_yields store)

lemma passwordPolicy_yields (profile : String) (locale : Locale) :
    Yields t store (t.passwordPolicy profile locale)
      (resolveProfile .passwordPolicy profile (store.answer (.profileIds .passwordPolicy))
        >>= fun id => t.derive store (.policy id locale)) :=
  (Yields.ofRead (Read.ask (.profileIds .passwordPolicy))).bind fun configured =>
    (Yields.ofRead (Read.ofExcept (resolveProfile .passwordPolicy profile configured))).bind
      fun id => Yields.lookUp (.policy id locale) (by simp)
        (fun m => t.carryOut_keptPolicy store m id locale) (.ofRead _)

/-- The first key text is drawn by whoever asks first, and it stays the only one. -/
lemma keyText_yields : Yields t store t.keyText (t.derive store .keyText) := by
  intro m h
  rw [carryOut_keyText]
  cases hit : m.kept? .keyText with
  | some v =>
      rw [lookUp_eq_of_kept hit]
      exact ⟨(h.kept hit).symm, h, Within.refl m⟩
  | none =>
      -- no key text is kept, so none was drawn, and the draw is the first one
      have undrawn : m.draws = 0 := by simpa [hit] using h.draws
      rw [lookUp_eq_of_not_kept hit, carryOut_drawKeyText, undrawn]
      refine ⟨rfl, ⟨fun {y w} hw => ?_, rfl⟩, ?_⟩
      · by_cases same : y = .keyText
        · subst same
          exact congrArg Except.ok (Option.some.inj hw)
        · exact h.kept ((kept?_keep_of_ne _ same _).symm.trans hw)
      · exact (Within.refl m).keep hit _

lemma deriveKey_yields : Yields t store t.deriveKey (t.derive store .key) := by
  refine (Yields.ofRead (t.plain.password Schema.securityKey)).bind fun stored => ?_
  cases stored.filter (!·.isEmpty) with
  | none =>
      exact (Yields.ofRead (Read.tell _)).bind fun _ =>
        (t.keyText_yields store).bind fun text => .pure _
  | some secret =>
      dsimp only
      split
      · exact .fail _
      · exact .pure _

lemma securityKey_yields : Yields t store t.securityKey (t.derive store .key) :=
  Yields.lookUp .key (by simp) (t.carryOut_securityKey store) (t.deriveKey_yields store)

/-! ### Requests -/

/-- What a request is answered by without a memory. -/
def answer : (r : Request) → Except ConfigError r.Answer
  | .read profile s reading => ((t.reader profile).read s reading).result store
  | .raw profile s => ((t.reader profile).raw s).result store
  | .isDefault profile s => ((t.reader profile).isDefault s).result store
  | .profiles d => t.derive store (.profiles d)
  | .profilesOf k => do return ofKind k (← t.derive store (.profiles (.ofKind k)))
  | .buildProfile profile d => (d.build (t.reader profile)).result store
  | .directories => t.derive store .directories
  | .defaultDirectory => do
    match (← t.derive store .directories).values.head? with
    | some directory => return directory
    | none => .error (.ofCause .noEnabledDirectory)
  | .publicPeopleSearch => do
    if !(← (t.plain.flag Schema.peopleSearchEnablePublic).result store) then return none
    else
      let id ← (t.plain.text Schema.peopleSearchPublicProfile).result store
      let all ← t.derive store (.profiles .peopleSearchPublic)
      return (ofKind .peopleSearch all).get? id
  | .profileIds c => .ok (store.answer (.profileIds c))
  | .passwordPolicy profile locale => do
    let id ← resolveProfile .passwordPolicy profile (store.answer (.profileIds .passwordPolicy))
    t.derive store (.policy id locale)
  | .challengeProfile profile locale => do
    let id ← resolveProfile .challengePolicy profile (store.answer (.profileIds .challengePolicy))
    (ChallengeProfile.read (t.reader (some id)) locale).result store
  | .securityKey => t.derive store .key
  | .localizedBundle b key => t.derive store (.bundle b key)
  | .digest => t.derive store .digest
  | .storageLocations s => (t.storageLocations s).result store
  | .tokenStorage => t.tokenStorage.result store
  | .logLevel => t.logLevel.result store
  | .certificateMatching => t.certificateMatching.result store
  | .hasDatabase => t.hasDatabase.result store
  | .nonDefaultSettings => t.nonDefaultSettings.result store
  | .modified => .ok (store.answer .modified)
  | .templates => .ok (store.answer .templates)
  | .knownLocales => t.knownLocales.result store
  | .flags => t.flags.result store

lemma defaultDirectory_yields :
    Yields t store t.defaultDirectory (t.answer store .defaultDirectory) := by
  refine (t.directories_yields store).bind fun enabled => ?_
  cases enabled.values.head? with
  | none => exact .fail _
  | some directory => exact .pure _

lemma publicPeopleSearch_yields :
    Yields t store t.publicPeopleSearch (t.answer store .publicPeopleSearch) := by
  refine (Yields.ofRead (t.plain.flag Schema.peopleSearchEnablePublic)).bind fun isOpen => ?_
  cases isOpen with
  | false => exact .pure _
  | true =>
      refine (Yields.ofRead (t.plain.text Schema.peopleSearchPublicProfile)).bind fun id => ?_
      refine ((t.profilesAs_yields store .peopleSearch .peopleSearchPublic).bind
        (b := fun all => .ok (all.get? id)) fun all => .pure _).of_eq ?_
      cases t.derive store (.profiles .peopleSearchPublic) <;> rfl

/-- Every request is answered from a sound memory as it is without one, and leaves a sound
memory. -/
theorem serve_yields (r : Request) : Yields t store (r.call t) (t.answer store r) := by
  -- calls that keep something have their own lemma, and all others only read
  cases r with
  | profiles d => exact t.profiles_yields store d
  | profilesOf k => exact t.profilesAs_yields store k (.ofKind k)
  | directories => exact t.directories_yields store
  | defaultDirectory => exact t.defaultDirectory_yields store
  | publicPeopleSearch => exact t.publicPeopleSearch_yields store
  | passwordPolicy profile locale => exact t.passwordPolicy_yields store profile locale
  | challengeProfile profile locale =>
      exact (Yields.ofRead (Read.ask (.profileIds .challengePolicy))).bind fun configured =>
        (Yields.ofRead (Read.ofExcept (resolveProfile .challengePolicy profile configured))).bind
          fun id => .ofRead _
  | securityKey => exact t.securityKey_yields store
  | localizedBundle b key => exact t.localizedBundle_yields store b key
  | digest => exact t.digest_yields store
  | _ => exact .ofRead _

/-! ### Runs -/

variable {t store}

/-- A run of requests keeps a sound memory sound. -/
theorem sound_memoryAfter {m : Memory} (h : m.Sound t store) (requests : List Request) :
    (t.memoryAfter store m requests).Sound t store := by
  induction requests generalizing m with
  | nil => exact h
  | cons r rest ih => exact ih (t.serve_yields store r m h).2.1

/-- A run of requests loses nothing that was held. -/
theorem within_memoryAfter {m : Memory} (h : m.Sound t store) (requests : List Request) :
    m.Within (t.memoryAfter store m requests) := by
  induction requests generalizing m with
  | nil => exact Within.refl m
  | cons r rest ih =>
      obtain ⟨-, sound, within⟩ := t.serve_yields store r m h
      exact within.trans (ih sound)

/-- After any run of requests on a fresh tenant a request is answered as it is without a memory. -/
theorem serve_memoryAfter_eq_answer (t : Tenant) (store : Store) (requests : List Request)
    (r : Request) :
    (t.serve store (t.memoryAfter store .empty requests) r).value.1 = t.answer store r :=
  (t.serve_yields store r _ (sound_memoryAfter (Memory.sound_empty t store) requests)).1

end Tenant

end TenantSettings

import TenantSettings.Proofs.Tenant.Soundness

/-!
# What a run leaves behind

What a memory holds after a run of requests is exactly what the requests need and the store yields:
a request that fails to compute something leaves nothing of it behind, and what a request needs on
the way is held even if the request fails in the end.

* `Request.needs`: what is derived for a request; `Request.fills`: the part of it that the store
  yields, and `Request.fills_eq_nil`: none of it for requests that fail.
* `Memory.Settled`: the invariant, which ties the directories in use to the map that they are
  selected from.
* `Call.Fills`: a call that leaves behind what was held and some more, closed under keeping the
  value (`Fills.lookUp`) and under work before and after it.
* `Tenant.fills_call`: the step; `Tenant.kept?_memoryAfter_iff`: the run.
-/

namespace TenantSettings

/-! ### What a request needs -/

/-- Whether the profiles of the public search are looked for: the search is open, and the id of its
profile can be read. -/
def Tenant.opensSearch (t : Tenant) (store : Store) : Bool :=
  match (t.plain.flag Schema.peopleSearchEnablePublic).result store,
    (t.plain.text Schema.peopleSearchPublicProfile).result store with
  | .ok true, .ok _ => true
  | _, _ => false

namespace Request

/-- What is derived for a request, in this order. -/
def needs (t : Tenant) (store : Store) : Request → List Derived
  | .profiles d => [.profiles d]
  | .profilesOf k => [.profiles (.ofKind k)]
  | .directories | .defaultDirectory => [.profiles .ldap, .directories]
  | .publicPeopleSearch => if t.opensSearch store then [.profiles .peopleSearchPublic] else []
  | .passwordPolicy profile locale =>
    match Tenant.resolveProfile .passwordPolicy profile
        (store.answer (.profileIds .passwordPolicy)) with
    | .ok id => [.policy id locale]
    | .error _ => []
  | .securityKey => [.key]
  | .localizedBundle b key => [.bundle b key]
  | .digest => [.digest]
  | _ => []

/-- What is there once a request was served: what it needs, as far as the store yields it. -/
def fills (t : Tenant) (store : Store) (r : Request) : List Derived :=
  (r.needs t store).filter fun x => (t.derive store x).isOk

end Request

/-! ### The invariant -/

namespace Memory

/-- Every text that bundle texts are kept under names a bundle and a key. -/
def Named (m : Memory) : Prop :=
  ∀ name, (m.bundles.slot name).isFilled → ∃ b key, ItemKey.bundleId b key = name

/-- Keeping something more keeps names in order. -/
lemma Named.keep {m : Memory} (h : m.Named) (x : Derived) (v : x.Value) : (m.keep x v).Named := by
  cases x with
  | bundle b key =>
      intro name filled
      by_cases own : name = ItemKey.bundleId b key
      · exact ⟨b, key, own.symm⟩
      · rw [Memory.keep, Slots.slot_put, if_neg own] at filled
        exact h name filled
  | _ => exact h

/-- So does an empty slot. -/
lemma Named.touch {m : Memory} (h : m.Named) (x : Derived) : (m.touch x).Named := by
  cases x with
  | bundle b key =>
      intro name filled
      rw [Memory.touch, Slots.slot_put_slot] at filled
      exact h name filled
  | _ => exact h

/-- A sound memory that names bundle keys properly, and that has the map which the directories in
use were selected from. -/
structure Settled (t : Tenant) (store : Store) (m : Memory) : Prop where
  sound : m.Sound t store
  named : m.Named
  grounded : (m.kept? .directories).isSome → (m.kept? (.profiles .ldap)).isSome

lemma settled_empty (t : Tenant) (store : Store) : empty.Settled t store := by
  refine ⟨sound_empty t store, fun name filled => ?_, fun held => ?_⟩
  · cases filled
  · simp at held

end Memory

/-! ### Calls that leave more behind -/

namespace Call

open Memory

variable {α β : Type} {t : Tenant} {store : Store} {xs : List Derived}

/-- From every settled memory the call leaves one that holds what was held and `xs`, generated key
texts left aside. -/
def Fills (t : Tenant) (store : Store) (xs : List Derived) (c : Call α) : Prop :=
  ∀ m : Memory, m.Settled t store →
    (c.carryOut store m).value.2.Named
      ∧ ∀ x, x ≠ .keyText → (((c.carryOut store m).value.2.kept? x).isSome
          ↔ (m.kept? x).isSome ∨ x ∈ xs)

namespace Fills

lemma of_eq {ys : List Derived} {c : Call α} (h : Fills t store xs c) (same : xs = ys) :
    Fills t store ys c := same ▸ h

lemma ofRead (x : Read α) : Fills t store [] (Call.ofRead x) := by
  intro m h
  rw [carryOut_ofRead]
  exact ⟨h.named, fun x _ => by simp⟩

lemma pure (a : α) : Fills t store [] (Pure.pure a : Call α) :=
  ofRead (Pure.pure a)

/-- Work on the answer that keeps nothing. -/
lemma bind_idle {c : Call α} {f : α → Call β} (hc : Fills t store xs c)
    (idle : ∀ a m, ((f a).carryOut store m).value.2 = m) : Fills t store xs (c >>= f) := by
  intro m h
  have same : ((c >>= f).carryOut store m).value.2 = (c.carryOut store m).value.2 := by
    rw [carryOut_bind]
    rcases c.carryOut store m with ⟨⟨value, m'⟩, asked, events⟩
    cases value with
    | error e => rfl
    | ok a => exact idle a m'
  rw [same]
  exact hc m h

/-- A read that fails leaves nothing behind, -/
lemma read_bind_of_error {x : Read α} {f : α → Call β} {e : ConfigError}
    (failed : x.result store = .error e) : Fills t store [] (Call.ofRead x >>= f) := by
  intro m h
  have same : ((Call.ofRead x >>= f).carryOut store m).value.2 = m := by
    rw [Read.result] at failed
    rw [carryOut_bind, carryOut_ofRead]
    dsimp only
    rw [failed]
  rw [same]
  exact ⟨h.named, fun x _ => by simp⟩

/-- and one that succeeds leaves what is left by the work on its value. -/
lemma read_bind_of_ok {x : Read α} {f : α → Call β} {a : α} (went : x.result store = .ok a)
    (hf : Fills t store xs (f a)) : Fills t store xs (Call.ofRead x >>= f) := by
  intro m h
  have same : ((Call.ofRead x >>= f).carryOut store m).value.2
      = ((f a).carryOut store m).value.2 := by
    rw [Read.result] at went
    rw [carryOut_bind, carryOut_ofRead]
    dsimp only
    rw [went]
  rw [same]
  exact hf m h

/-- A call whose value is kept: what computing it leaves, and the value if there is one. What
computing would leave has to be there already where the value is. -/
lemma lookUp {x : Derived} {call init : Call x.Value}
    (look : ∀ m, call.carryOut store m = m.lookUp x (init.carryOut store m))
    (yields : Yields t store init (t.derive store x)) (hinit : Fills t store xs init)
    (there : ∀ m : Memory, m.Settled t store → (m.kept? x).isSome →
      ∀ y ∈ xs, (m.kept? y).isSome) :
    Fills t store (xs ++ [x].filter fun y => (t.derive store y).isOk) call := by
  intro m h
  rw [look m]
  cases hit : m.kept? x with
  | some v =>
      -- a kept value changes nothing, and what computing it would leave is there already
      have known : (m.kept? x).isSome := by rw [hit]; rfl
      rw [lookUp_eq_of_kept hit]
      refine ⟨h.named, fun y _ => ⟨.inl, ?_⟩⟩
      rintro (held | new)
      · exact held
      · rcases List.mem_append.mp new with before | last
        · exact there m h known y before
        · obtain rfl : y = x := List.mem_singleton.mp (List.mem_filter.mp last).1
          exact known
  | none =>
      -- else it is computed, and kept unless that fails; what computing leaves stays either way
      obtain ⟨named, held⟩ := hinit m h
      have value := (yields m h.sound).1
      rw [lookUp_eq_of_not_kept hit]
      dsimp only
      rw [value]
      cases derived : t.derive store x with
      | error e =>
          refine ⟨named.touch x, fun y hy => ?_⟩
          rw [Memory.learn, kept?_touch, held y hy]
          simp [derived, Except.isOk, Except.toBool]
      | ok v =>
          refine ⟨named.keep x v, fun y hy => ?_⟩
          by_cases same : y = x
          · subst same
            simp [Memory.learn, derived, Except.isOk, Except.toBool]
          · rw [Memory.learn, kept?_keep_of_ne _ same, held y hy]
            simp [same]

end Fills

end Call

/-! ### The requests of a tenant -/

namespace Tenant

open Memory Call

variable (t : Tenant) (store : Store)

/-- What is read from the store and kept. -/
lemma fills_lookUp_read {x : Derived} {call : Call x.Value} {read : Read x.Value}
    (look : ∀ m, call.carryOut store m = m.lookUp x ((Call.ofRead read).carryOut store m))
    (derived : read.result store = t.derive store x) :
    Fills t store ([x].filter fun y => (t.derive store y).isOk) call :=
  (Fills.lookUp look ((Yields.ofRead read).of_eq derived) (.ofRead read)
    fun _ _ _ _ mem => by cases mem).of_eq (List.nil_append _)

lemma fills_profiles (d : Definition) :
    Fills t store ([.profiles d].filter fun y => (t.derive store y).isOk) (t.profiles d) :=
  t.fills_lookUp_read store (fun m => t.carryOut_profiles store m d) rfl

lemma fills_profilesAs (k : ProfileKind) (d : Definition) :
    Fills t store ([.profiles d].filter fun y => (t.derive store y).isOk) (t.profilesAs k d) :=
  (t.fills_profiles store d).bind_idle fun _ _ => rfl

/-- The directories in use can be selected exactly if there is a map to select from. -/
lemma isOk_derive_directories :
    (t.derive store .directories).isOk = (t.derive store (.profiles .ldap)).isOk := by
  rw [derive, derive]
  cases (t.buildProfiles .ldap).result store <;> rfl

lemma fills_directories :
    Fills t store ([.profiles .ldap, .directories].filter fun y => (t.derive store y).isOk)
      t.directories := by
  have select : Fills t store ([.profiles .ldap].filter fun y => (t.derive store y).isOk)
      t.selectDirectories := by
    refine (t.fills_profilesAs store .directory .ldap).bind_idle fun all m => ?_
    dsimp only
    split <;> rfl
  refine (Fills.lookUp (x := .directories) (t.carryOut_directories store)
    (t.selectDirectories_yields store) select ?_).of_eq
    (by rw [← List.filter_append, List.singleton_append])
  -- where the directories are kept, so is the map, by the invariant
  intro m settled held y mem
  obtain rfl : y = .profiles .ldap := List.mem_singleton.mp (List.mem_filter.mp mem).1
  exact settled.grounded held

lemma fills_defaultDirectory :
    Fills t store ([.profiles .ldap, .directories].filter fun y => (t.derive store y).isOk)
      t.defaultDirectory := by
  refine (t.fills_directories store).bind_idle fun enabled m => ?_
  cases enabled.values.head? <;> rfl

lemma fills_publicPeopleSearch :
    Fills t store (Request.publicPeopleSearch.fills t store) t.publicPeopleSearch := by
  rw [Request.fills, Request.needs, opensSearch]
  cases isOpen : (t.plain.flag Schema.peopleSearchEnablePublic).result store with
  | error e => exact .read_bind_of_error isOpen
  | ok flag =>
      refine .read_bind_of_ok isOpen ?_
      cases flag with
      | false => exact .pure _
      | true =>
          cases named : (t.plain.text Schema.peopleSearchPublicProfile).result store with
          | error e => exact .read_bind_of_error named
          | ok id =>
              exact .read_bind_of_ok named
                ((t.fills_profilesAs store .peopleSearch .peopleSearchPublic).bind_idle
                  fun _ _ => rfl)

lemma fills_passwordPolicy (profile : String) (locale : Locale) :
    Fills t store ((Request.passwordPolicy profile locale).fills t store)
      (t.passwordPolicy profile locale) := by
  have asked : (Read.ask (.profileIds .passwordPolicy)).result store
      = .ok (store.answer (.profileIds .passwordPolicy)) := rfl
  refine .read_bind_of_ok asked ?_
  rw [Request.fills, Request.needs]
  cases resolved : resolveProfile .passwordPolicy profile
      (store.answer (.profileIds .passwordPolicy)) with
  | error e => exact .read_bind_of_error rfl
  | ok id =>
      exact .read_bind_of_ok rfl (t.fills_lookUp_read store (x := .policy id locale)
        (fun m => t.carryOut_keptPolicy store m id locale) rfl)

/-- A generated key text is counted nowhere. -/
lemma fills_keyText : Fills t store [] t.keyText := by
  intro m h
  rw [carryOut_keyText]
  cases hit : m.kept? .keyText with
  | some v =>
      rw [lookUp_eq_of_kept hit]
      exact ⟨h.named, fun x _ => by simp⟩
  | none =>
      rw [lookUp_eq_of_not_kept hit, carryOut_drawKeyText]
      refine ⟨h.named, fun x hx => ?_⟩
      rw [Memory.learn, kept?_keep_of_ne _ hx]
      cases x <;> simp [kept?]

lemma fills_securityKey :
    Fills t store ([.key].filter fun y => (t.derive store y).isOk) t.securityKey := by
  have derives : Fills t store [] t.deriveKey := by
    cases read : (t.plain.password Schema.securityKey).result store with
    | error e => exact .read_bind_of_error read
    | ok stored =>
        refine .read_bind_of_ok read ?_
        cases stored.filter (!·.isEmpty) with
        | none =>
            exact .read_bind_of_ok rfl ((t.fills_keyText store).bind_idle fun _ _ => rfl)
        | some secret =>
            dsimp only
            split
            · exact .ofRead _
            · exact .pure _
  exact (Fills.lookUp (x := .key) (t.carryOut_securityKey store) (t.deriveKey_yields store) derives
    fun _ _ _ _ mem => by cases mem).of_eq (List.nil_append _)

/-- Every request leaves behind what it needs, as far as the store yields it. -/
theorem fills_call (r : Request) : Fills t store (r.fills t store) (r.call t) := by
  cases r with
  | profiles d => exact t.fills_profiles store d
  | profilesOf k => exact t.fills_profilesAs store k (.ofKind k)
  | directories => exact t.fills_directories store
  | defaultDirectory => exact t.fills_defaultDirectory store
  | publicPeopleSearch => exact t.fills_publicPeopleSearch store
  | passwordPolicy profile locale => exact t.fills_passwordPolicy store profile locale
  | challengeProfile profile locale =>
      refine .read_bind_of_ok (a := store.answer (.profileIds .challengePolicy)) rfl ?_
      cases resolved : resolveProfile .challengePolicy profile
          (store.answer (.profileIds .challengePolicy)) with
      | error e => exact .read_bind_of_error rfl
      | ok id => exact .read_bind_of_ok rfl (.ofRead _)
  | securityKey => exact t.fills_securityKey store
  | localizedBundle b key =>
      exact t.fills_lookUp_read store (x := .bundle b key)
        (fun m => t.carryOut_localizedBundle store m b key) rfl
  | digest => exact t.fills_lookUp_read store (x := .digest) (t.carryOut_digest store) rfl
  | _ => exact .ofRead _

/-! ### Runs -/

variable {t store}

/-- A request leaves a settled memory: the directories in use never come without their map. -/
lemma settled_serve {m : Memory} (h : m.Settled t store) (r : Request) :
    (t.serve store m r).value.2.Settled t store := by
  obtain ⟨named, held⟩ := t.fills_call store r m h
  refine ⟨(t.serve_yields store r m h.sound).2.1, named, fun selected => ?_⟩
  rw [serve, held _ (by simp)] at selected ⊢
  refine selected.imp h.grounded fun new => ?_
  obtain ⟨needed, derived⟩ := List.mem_filter.mp new
  rw [isOk_derive_directories] at derived
  refine List.mem_filter.mpr ⟨?_, derived⟩
  cases r with
  | directories | defaultDirectory => exact List.mem_cons_self
  | publicPeopleSearch | passwordPolicy profile locale =>
      simp only [Request.needs] at needed
      split at needed <;> simp at needed
  | _ => simp [Request.needs] at needed

theorem settled_memoryAfter {m : Memory} (h : m.Settled t store) (requests : List Request) :
    (t.memoryAfter store m requests).Settled t store := by
  induction requests generalizing m with
  | nil => exact h
  | cons r rest ih => exact ih (settled_serve h r)

/-- A run of requests leaves behind what was held and what its requests need, as far as the store
yields it. -/
theorem kept?_memoryAfter_iff {m : Memory} (h : m.Settled t store) (requests : List Request)
    {x : Derived} (hx : x ≠ .keyText) :
    ((t.memoryAfter store m requests).kept? x).isSome
      ↔ (m.kept? x).isSome ∨ ∃ r ∈ requests, x ∈ r.fills t store := by
  induction requests generalizing m with
  | nil => simp [memoryAfter]
  | cons r rest ih =>
      have one : ((t.serve store m r).value.2.kept? x).isSome
          ↔ (m.kept? x).isSome ∨ x ∈ r.fills t store := (t.fills_call store r m h).2 x hx
      have run : t.memoryAfter store m (r :: rest)
          = t.memoryAfter store (t.serve store m r).value.2 rest := rfl
      rw [run, ih (settled_serve h r), one]
      simp [or_assoc]

end Tenant

/-! ### Requests that fail -/

namespace Request

variable {t : Tenant} {store : Store} {r : Request}

/-- What cannot be derived is not left behind. -/
lemma filter_refused {x : Derived} {e : ConfigError} (refused : t.derive store x = .error e) :
    ([x].filter fun y => (t.derive store y).isOk) = [] := by
  simp [refused, Except.isOk, Except.toBool]

/-- What is made of a value is only missing where the value is. -/
lemma refused_of_map {α β : Type} {x : Except ConfigError α} {f : α → β} {e : ConfigError}
    (refused : (do return f (← x)) = Except.error e) : x = .error e := by
  cases x with
  | error e' => exact congrArg Except.error (Except.error.inj refused)
  | ok a => cases refused

/-- Without a map there are no directories in use. -/
lemma filter_refused_directories {e : ConfigError}
    (refused : t.derive store .directories = .error e) :
    ([.profiles .ldap, .directories].filter fun y => (t.derive store y).isOk) = [] := by
  have neither : (t.derive store (.profiles .ldap)).isOk = false := by
    rw [← t.isOk_derive_directories store, refused]
    rfl
  rw [List.filter_cons_of_neg (by simp [neither]), filter_refused refused]

/-- A request that fails leaves nothing behind, unless it has found that none of the directories is
in use. -/
lemma fills_eq_nil {e : ConfigError} (failed : t.answer store r = .error e)
    (missing : r = .defaultDirectory → e ≠ .ofCause .noEnabledDirectory) :
    r.fills t store = [] := by
  rw [fills]
  cases r with
  | profiles d => exact filter_refused failed
  | profilesOf k => exact filter_refused (refused_of_map failed)
  | directories => exact filter_refused_directories failed
  | defaultDirectory =>
      rw [Tenant.answer] at failed
      cases derived : t.derive store .directories with
      | error e' => exact filter_refused_directories derived
      | ok enabled =>
          -- the directories were found, so that none of them can be in use
          rw [derived] at failed
          dsimp only [bind, Except.bind] at failed
          split at failed
          · cases failed
          · exact absurd (Except.error.inj failed).symm (missing rfl)
  | publicPeopleSearch =>
      rw [needs, Tenant.opensSearch]
      rw [Tenant.answer] at failed
      -- profiles are needed only where the search is open and names one of them
      cases isOpen : (t.plain.flag Schema.peopleSearchEnablePublic).result store with
      | error e' => rfl
      | ok flag =>
          rw [isOpen] at failed
          cases flag with
          | false => rfl
          | true =>
              cases named : (t.plain.text Schema.peopleSearchPublicProfile).result store with
              | error e' => rfl
              | ok id =>
                  rw [named] at failed
                  exact filter_refused (refused_of_map failed)
  | passwordPolicy profile locale =>
      rw [needs]
      rw [Tenant.answer] at failed
      cases resolved : Tenant.resolveProfile .passwordPolicy profile
          (store.answer (.profileIds .passwordPolicy)) with
      | error e' => rfl
      | ok id =>
          rw [resolved] at failed
          exact filter_refused failed
  | securityKey => exact filter_refused failed
  | localizedBundle b key => exact filter_refused failed
  | digest => exact filter_refused failed
  | _ => rfl

end Request

end TenantSettings

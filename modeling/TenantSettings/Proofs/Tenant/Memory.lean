import TenantSettings.Proofs.Text.Split
import TenantSettings.Tenant.Request

/-!
# The memory of a tenant as a table

The slots of a memory, some single and some by key, read as one partial function on everything that
a tenant derives and keeps.

* `Derived`: what is derived and kept, by what it is looked up under.
* `Memory.kept?`, `Memory.keep`: a look-up in a memory and its update; `kept?_keep_self` and
  `kept?_keep_of_ne` are the laws of the two.  Bundle texts are kept under one text made of bundle
  and key, so the second law rests on `ItemKey.bundleId_inj`.
* `Memory.touch`: the empty slot that a failed computation leaves; no look-up sees it.
* `Memory.lookUp`: what comes of a call whose value is kept; `lookUp_eq_of_kept` is its hit,
  `kept?_lookUp` what it leaves when it succeeds.
* `Call.carryOut_cached`, `Call.carryOut_cachedAt`: the calls of the model that keep their value are
  of this form.
-/

namespace TenantSettings

/-! ### Names of bundle keys -/

namespace ItemKey

/-- No bundle has a dash in its word. -/
lemma dash_notMem_text (b : Bundle) : '-' ∉ (Literal.text b).toList := by
  cases b <;> decide

/-- The name of a bundle key is split at its first dash into the word of the bundle and the key,
whatever dashes there are in the key. -/
lemma splitOnce_bundleId (b : Bundle) (key : String) :
    Text.splitOnce '-' (bundleId b key).toList = some ((Literal.text b).toList, key.toList) := by
  rw [Text.splitOnce_eq_some_iff]
  exact ⟨by simp [bundleId], dash_notMem_text b⟩

/-- A bundle is found by its word. -/
lemma ofText?_text_bundle (b : Bundle) : Literal.ofText? (Literal.text b) = some b :=
  Literal.ofText?_text (by cases b <;> decide) (by decide)

/-- The name of a bundle key gives the bundle and the key back. -/
lemma bundleOfId?_bundleId (b : Bundle) (key : String) :
    bundleOfId? (bundleId b key) = some (b, key) := by
  simp [bundleOfId?, splitOnce_bundleId, ofText?_text_bundle]

/-- Two bundle keys of one name are the same. -/
lemma bundleId_inj {b b' : Bundle} {key key' : String} (h : bundleId b key = bundleId b' key') :
    b = b' ∧ key = key' := by
  have both := bundleOfId?_bundleId b key
  rw [h, bundleOfId?_bundleId] at both
  simp_all

end ItemKey

/-! ### What is kept -/

/-- What a tenant derives from its store and keeps, by what it is looked up under. -/
inductive Derived where
  | profiles (d : Definition)
  | directories
  | policy (id : String) (locale : Locale)
  | bundle (b : Bundle) (key : String)
  | keyText
  | key
  | digest
deriving DecidableEq

/-- The type of what is derived. -/
abbrev Derived.Value : Derived → Type
  | .profiles _ => OrderedMap String Profile
  | .directories => OrderedMap String Directory
  | .policy _ _ => PasswordPolicy
  | .bundle _ _ => Option (OrderedMap Locale String)
  | .keyText => String
  | .key => SecurityKey
  | .digest => String

namespace Memory

/-- What a memory holds of something derived. -/
def kept? (m : Memory) : (x : Derived) → Option x.Value
  | .profiles d => (m.profiles.slot d).value?
  | .directories => m.directories.value?
  | .policy id locale => (m.policies.slot (id, locale)).value?
  | .bundle b key => (m.bundles.slot (ItemKey.bundleId b key)).value?
  | .keyText => m.keyText.value?
  | .key => m.key.value?
  | .digest => m.digest.value?

/-- A memory that holds something more. -/
def keep (m : Memory) : (x : Derived) → x.Value → Memory
  | .profiles d, v => { m with profiles := m.profiles.put d ⟨some v⟩ }
  | .directories, v => { m with directories := ⟨some v⟩ }
  | .policy id locale, v => { m with policies := m.policies.put (id, locale) ⟨some v⟩ }
  | .bundle b key, v => { m with bundles := m.bundles.put (ItemKey.bundleId b key) ⟨some v⟩ }
  | .keyText, v => { m with keyText := ⟨some v⟩ }
  | .key, v => { m with key := ⟨some v⟩ }
  | .digest, v => { m with digest := ⟨some v⟩ }

/-- A memory that has a slot for something, empty if there was none. -/
def touch (m : Memory) : Derived → Memory
  | .profiles d => { m with profiles := m.profiles.put d (m.profiles.slot d) }
  | .policy id locale =>
    { m with policies := m.policies.put (id, locale) (m.policies.slot (id, locale)) }
  | .bundle b key =>
    let name := ItemKey.bundleId b key
    { m with bundles := m.bundles.put name (m.bundles.slot name) }
  | _ => m

/-- The memory that knows nothing yet holds nothing. -/
@[simp] lemma kept?_empty (x : Derived) : empty.kept? x = none := by
  cases x <;> rfl

/-- What was just kept is there. -/
@[simp] lemma kept?_keep_self (m : Memory) (x : Derived) (v : x.Value) :
    (m.keep x v).kept? x = some v := by
  cases x <;> simp [kept?, keep, Slots.slot_put]

/-- Keeping one thing leaves everything else as it is. -/
lemma kept?_keep_of_ne (m : Memory) {x y : Derived} (h : y ≠ x) (v : x.Value) :
    (m.keep x v).kept? y = m.kept? y := by
  -- things of one sort may share a table, where their keys have to differ
  cases x with
  | bundle b key =>
      cases y with
      | bundle b' key' =>
          have other : ItemKey.bundleId b' key' ≠ ItemKey.bundleId b key := by
            intro same
            obtain ⟨rfl, rfl⟩ := ItemKey.bundleId_inj same
            exact h rfl
          simp [kept?, keep, Slots.slot_put, other]
      | _ => rfl
  | profiles d =>
      cases y with
      | profiles d' =>
          have other : d' ≠ d := fun same => h (by rw [same])
          simp [kept?, keep, Slots.slot_put, other]
      | _ => rfl
  | policy id locale =>
      cases y with
      | policy id' locale' =>
          have other : ¬ (id' = id ∧ locale' = locale) := fun same => h (by rw [same.1, same.2])
          simp [kept?, keep, Slots.slot_put, other]
      | _ => rfl
  | _ => cases y <;> first | rfl | exact absurd rfl h

/-- Keeping counts no generated key text. -/
@[simp] lemma draws_keep (m : Memory) (x : Derived) (v : x.Value) :
    (m.keep x v).draws = m.draws := by
  cases x <;> rfl

/-- An empty slot holds nothing. -/
@[simp] lemma kept?_touch (m : Memory) (x y : Derived) : (m.touch x).kept? y = m.kept? y := by
  cases x <;> cases y <;> simp [kept?, touch, Slots.slot_put_slot]

@[simp] lemma draws_touch (m : Memory) (x : Derived) : (m.touch x).draws = m.draws := by
  cases x <;> rfl

/-- A memory after a computation: it keeps the value if there is one, and else has an empty slot. -/
def learn (m : Memory) (x : Derived) : Except ConfigError x.Value → Memory
  | .ok v => m.keep x v
  | .error _ => m.touch x

/-- What comes of a call whose value is kept, given what comes of computing it: the value that is
there already, or else the computed one, which is then kept. -/
def lookUp (m : Memory) (x : Derived) (computed : Outcome (Except ConfigError x.Value × Memory)) :
    Outcome (Except ConfigError x.Value × Memory) :=
  match m.kept? x with
  | some v => ⟨(.ok v, m), [], []⟩
  | none => ⟨(computed.value.1, computed.value.2.learn x computed.value.1), computed.asked,
      computed.events⟩

/-- What is kept is answered without a question, and nothing changes. -/
lemma lookUp_eq_of_kept {m : Memory} {x : Derived} {v : x.Value} (h : m.kept? x = some v)
    (computed : Outcome (Except ConfigError x.Value × Memory)) :
    m.lookUp x computed = ⟨(.ok v, m), [], []⟩ := by
  rw [lookUp, h]

/-- What is not kept is computed. -/
lemma lookUp_eq_of_not_kept {m : Memory} {x : Derived} (h : m.kept? x = none)
    (computed : Outcome (Except ConfigError x.Value × Memory)) :
    m.lookUp x computed = ⟨(computed.value.1, computed.value.2.learn x computed.value.1),
      computed.asked, computed.events⟩ := by
  rw [lookUp, h]

/-- A value that was answered is kept from then on. -/
lemma kept?_lookUp {m : Memory} {x : Derived}
    {computed : Outcome (Except ConfigError x.Value × Memory)} {v : x.Value}
    (h : (m.lookUp x computed).value.1 = .ok v) :
    (m.lookUp x computed).value.2.kept? x = some v := by
  cases hit : m.kept? x with
  | some w =>
      rw [lookUp_eq_of_kept hit] at h ⊢
      rw [← Except.ok.inj h]
      exact hit
  | none =>
      rw [lookUp_eq_of_not_kept hit] at h ⊢
      rw [h, learn, kept?_keep_self]

end Memory

/-! ### Calls whose value is kept -/

namespace Call

open Memory

/-- A call whose value is kept in a slot is a look-up of that slot, where `get` and `set` are the
slot of `x`, which is always there, and computing does not fill it. -/
lemma carryOut_cached (x : Derived) {get : Memory → Slot x.Value}
    {set : Slot x.Value → Memory → Memory} (store : Store) (m : Memory) (init : Call x.Value)
    (hget : ∀ m, (get m).value? = m.kept? x) (hset : ∀ m v, set ⟨some v⟩ m = m.keep x v)
    (hsame : ∀ m, set (get m) m = m) (htouch : ∀ m, Memory.touch m x = m)
    (hinit : m.kept? x = none → (init.carryOut store m).value.2.kept? x = none) :
    (cached get set init).carryOut store m = m.lookUp x (init.carryOut store m) := by
  cases hit : m.kept? x with
  | some v =>
      rw [carryOut_cached_of_some store m set init ((hget m).trans hit), hsame,
        lookUp_eq_of_kept hit]
  | none =>
      rw [carryOut_cached_of_none store m set init ((hget m).trans hit), lookUp_eq_of_not_kept hit]
      have later := hinit hit
      revert later
      rcases init.carryOut store m with ⟨⟨value, m'⟩, asked, events⟩
      intro later
      cases value with
      | ok v => simp [Except.toOption, hset, learn]
      | error e =>
          -- a failure is written back as the empty slot, which is what was there
          have slot : (⟨none⟩ : Slot x.Value) = get m' := by
            rw [← later, ← hget]
          simp [Except.toOption, slot, hsame, htouch, learn]

/-- A call that keeps the value of a read under a key is a look-up of that key. -/
lemma carryOut_cachedAt {κ : Type} [DecidableEq κ] (x : Derived) {get : Memory → Slots κ x.Value}
    {set : Slots κ x.Value → Memory → Memory} (store : Store) (m : Memory) (k : κ)
    (read : Read x.Value) (hget : ((get m).slot k).value? = m.kept? x)
    (hset : ∀ v, set ((get m).put k ⟨some v⟩) m = m.keep x v)
    (htouch : set ((get m).put k ((get m).slot k)) m = m.touch x) (hsame : set (get m) m = m) :
    (cachedAt get set k (ofRead read)).carryOut store m
      = m.lookUp x ((ofRead read).carryOut store m) := by
  cases hit : m.kept? x with
  | some v =>
      have there := hget.trans hit
      rw [carryOut_cachedAt_of_some store m set k _ there, lookUp_eq_of_kept hit,
        Slots.put_slot_of_filled there, hsame]
  | none =>
      have missing := hget.trans hit
      have slot : (⟨none⟩ : Slot x.Value) = (get m).slot k := by rw [← missing]
      rw [carryOut_cachedAt_of_none store m set k _ missing, lookUp_eq_of_not_kept hit,
        carryOut_ofRead]
      rcases read.carryOut store with ⟨value, asked, events⟩
      cases value with
      | ok v => simp [Except.toOption, hset, learn]
      | error e => simp [Except.toOption, slot, htouch, learn]

/-- The call does not fill the slot of `x`. -/
def Spares (x : Derived) {α : Type} (c : Call α) : Prop :=
  ∀ (store : Store) (m : Memory), (c.carryOut store m).value.2.kept? x = m.kept? x

namespace Spares

variable {x : Derived} {α β : Type}

lemma pure (a : α) : Spares x (Pure.pure a : Call α) := fun _ _ => rfl

lemma ofRead (r : Read α) : Spares x (Call.ofRead r) :=
  fun store m => by rw [carryOut_ofRead]

/-- One call after another. -/
lemma bind {c : Call α} {f : α → Call β} (hc : Spares x c) (hf : ∀ a, Spares x (f a)) :
    Spares x (c >>= f) := by
  intro store m
  have first := hc store m
  rw [carryOut_bind]
  revert first
  rcases c.carryOut store m with ⟨⟨value, m'⟩, asked, events⟩
  intro first
  cases value with
  | error e => exact first
  | ok a => exact (hf a store m').trans first

/-- A call that keeps its value under something else. -/
lemma lookUp {y : Derived} (h : x ≠ y) {call init : Call y.Value}
    (look : ∀ store m, call.carryOut store m = m.lookUp y (init.carryOut store m))
    (hinit : Spares x init) : Spares x call := by
  intro store m
  rw [look]
  cases hit : m.kept? y with
  | some v => rw [lookUp_eq_of_kept hit]
  | none =>
      have inner := hinit store m
      rw [lookUp_eq_of_not_kept hit]
      cases hv : (init.carryOut store m).value.1 with
      | ok v => exact (kept?_keep_of_ne _ h v).trans inner
      | error e => exact (kept?_touch _ y x).trans inner

end Spares

end Call

namespace Tenant

open Memory

variable (t : Tenant) (store : Store) (m : Memory)

/-- The profiles of a definition are looked up, else built. -/
lemma carryOut_profiles (d : Definition) :
    (t.profiles d).carryOut store m
      = m.lookUp (.profiles d) ((Call.ofRead (t.buildProfiles d)).carryOut store m) := by
  rw [profiles]
  exact Call.carryOut_cachedAt (.profiles d) store m d _ rfl (fun _ => rfl) rfl rfl

/-- A password policy is looked up, else built. -/
lemma carryOut_keptPolicy (id : String) (locale : Locale) :
    (t.keptPolicy id locale).carryOut store m
      = m.lookUp (.policy id locale)
          ((Call.ofRead (t.buildPolicy id locale)).carryOut store m) := by
  rw [keptPolicy]
  exact Call.carryOut_cachedAt (.policy id locale) store m _ _ rfl (fun _ => rfl) rfl rfl

/-- The texts of a bundle key are looked up, else read. -/
lemma carryOut_localizedBundle (b : Bundle) (key : String) :
    (t.localizedBundle b key).carryOut store m
      = m.lookUp (.bundle b key) ((Call.ofRead (readBundle b key)).carryOut store m) := by
  rw [localizedBundle]
  exact Call.carryOut_cachedAt (.bundle b key) store m _ _ rfl (fun _ => rfl) rfl rfl

/-- The digest is looked up, else computed. -/
lemma carryOut_digest :
    t.digest.carryOut store m
      = m.lookUp .digest ((Call.ofRead computeDigest).carryOut store m) := by
  rw [digest]
  exact Call.carryOut_cached .digest store m _ (fun _ => rfl) (fun _ _ => rfl) (fun _ => rfl)
    (fun _ => rfl) fun h => by rwa [Call.carryOut_ofRead]

/-- Selecting the directories in use does not fill their own slot. -/
lemma selectDirectories_spares : Call.Spares .directories t.selectDirectories := by
  have all : Call.Spares .directories (t.profilesAs .directory .ldap) :=
    .bind (.lookUp (y := .profiles .ldap) (by simp)
      (fun store m => t.carryOut_profiles store m .ldap) (.ofRead _)) fun _ => .pure _
  refine all.bind fun all => ?_
  dsimp only
  split
  · exact .bind (.ofRead _) fun _ => .pure _
  · exact .pure _

/-- The directories in use are looked up, else selected. -/
lemma carryOut_directories :
    t.directories.carryOut store m
      = m.lookUp .directories (t.selectDirectories.carryOut store m) := by
  rw [directories]
  exact Call.carryOut_cached .directories store m _ (fun _ => rfl) (fun _ _ => rfl) (fun _ => rfl)
    (fun _ => rfl) fun h => (t.selectDirectories_spares store m).trans h

/-- Drawing a key text counts it, and changes nothing else. -/
lemma carryOut_drawKeyText :
    t.drawKeyText.carryOut store m
      = ⟨(.ok (SecurityKey.drawText (t.words m.draws) t.properties.keyLength),
          { m with draws := m.draws + 1 }), [], []⟩ := rfl

/-- The generated key text is looked up, else drawn. -/
lemma carryOut_keyText :
    t.keyText.carryOut store m = m.lookUp .keyText (t.drawKeyText.carryOut store m) := by
  rw [keyText]
  exact Call.carryOut_cached .keyText store m _ (fun _ => rfl) (fun _ _ => rfl) (fun _ => rfl)
    (fun _ => rfl) fun h => h

/-- Deriving the key does not fill its own slot. -/
lemma deriveKey_spares : Call.Spares .key t.deriveKey := by
  refine .bind (.ofRead _) fun stored => ?_
  cases stored.filter (!·.isEmpty) with
  | none =>
      have text : Call.Spares .key t.keyText :=
        .lookUp (y := .keyText) (by simp) (fun store m => t.carryOut_keyText store m) fun _ _ => rfl
      exact .bind (.ofRead _) fun _ => .bind text fun _ => .pure _
  | some secret =>
      dsimp only
      split
      · exact .ofRead _
      · exact .pure _

/-- The key is looked up, else derived. -/
lemma carryOut_securityKey :
    t.securityKey.carryOut store m = m.lookUp .key (t.deriveKey.carryOut store m) := by
  rw [securityKey]
  exact Call.carryOut_cached .key store m _ (fun _ => rfl) (fun _ _ => rfl) (fun _ => rfl)
    (fun _ => rfl) fun h => (t.deriveKey_spares store m).trans h

end Tenant

end TenantSettings

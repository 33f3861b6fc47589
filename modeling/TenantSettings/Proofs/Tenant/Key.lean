import TenantSettings.Proofs.Store.Build
import TenantSettings.Proofs.Tenant.Soundness

/-!
# The key of an instance

A tenant has one key for as long as it lives.  Where no secret is configured the key comes from a
text that is drawn once; a secret that is too short is refused on every call; any other secret is
the only thing that the key depends on.

* `Store.keySecret?`: the secret that is configured for the key.
* `Tenant.derive_key_of_secret`, `Tenant.derive_key_of_no_secret`: the key that a store yields.
* `Tenant.securityKey_regimes`: what all calls for the key come to, over every snapshot that is
  built and every run of requests.
-/

namespace TenantSettings

/-- The secret that a store holds for the key of the instance; an empty one is none. -/
def Store.keySecret? (store : Store) : Option Secret :=
  match store.answer (.value Schema.securityKey none) with
  | .password secret => secret.filter (!·.isEmpty)
  | _ => none

/-- A snapshot holds a password for the key of the instance, stored or by default. -/
lemma Snapshot.exists_password {steps : List Snapshot.Step} {s : Snapshot}
    (built : Snapshot.build steps = .ok s) :
    ∃ secret, s.store.answer (.value Schema.securityKey none) = .password secret := by
  have fits := (Admitted.of_build built).value Schema.securityKey none
  show ∃ secret, s.value Schema.securityKey none = .password secret
  revert fits
  cases s.value Schema.securityKey none with
  | password secret => exact fun _ => ⟨secret, rfl⟩
  | _ => simp [Setting.admits, Schema.securityKey, StoredValue.shape]

namespace Tenant

variable (t : Tenant) {store : Store}

/-- The stored password of the key is read outside of all profiles. -/
lemma result_keyPassword {secret : Option Secret}
    (h : store.answer (.value Schema.securityKey none) = .password secret) :
    (t.plain.password Schema.securityKey).result store = .ok secret := by
  have scope : t.plain.scope Schema.securityKey = .ok none := rfl
  rw [Read.result, Reader.password, Reader.carryOut_read, scope]
  simp only
  rw [h]
  rfl

/-- A configured secret is refused if it is too short, and else makes the key. -/
lemma derive_key_of_secret {secret : Secret} (h : store.keySecret? = some secret) :
    t.derive store .key =
      if secret.length < t.properties.minKeyLength then
        .error (.ofCause (.shortKey t.properties.minKeyLength))
      else .ok (.ofText secret.text false) := by
  unfold Store.keySecret? at h
  split at h
  · next stored hs =>
      rw [derive, result_keyPassword t hs]
      dsimp only [bind, Except.bind]
      rw [h]
      rfl
  · cases h

/-- Where no secret is configured the key comes from the first text drawn. -/
lemma derive_key_of_no_secret {stored : Option Secret}
    (hs : store.answer (.value Schema.securityKey none) = .password stored)
    (h : store.keySecret? = none) :
    t.derive store .key
      = .ok (.ofText (SecurityKey.drawText (t.words 0) t.properties.keyLength) true) := by
  rw [Store.keySecret?, hs] at h
  rw [derive, result_keyPassword t hs]
  dsimp only [bind, Except.bind]
  rw [show stored.filter (!·.isEmpty) = none from h]
  rfl

/-- No run of requests draws a second key text. -/
lemma draws_memoryAfter_le_one (store : Store) (requests : List Request) :
    (t.memoryAfter store .empty requests).draws ≤ 1 := by
  have drawn := (sound_memoryAfter (Memory.sound_empty t store) requests).draws
  split at drawn <;> omega

/-- A key that cannot be derived is never kept. -/
lemma stats_key_memoryAfter_eq_false {e : ConfigError} (refused : t.derive store .key = .error e)
    (requests : List Request) : (t.memoryAfter store .empty requests).stats.key = false := by
  have sound := sound_memoryAfter (Memory.sound_empty t store) requests
  show ((t.memoryAfter store .empty requests).kept? .key).isSome = false
  cases kept : (t.memoryAfter store .empty requests).kept? .key with
  | none => rfl
  | some k =>
      have derived := sound.kept kept
      rw [refused] at derived
      cases derived

/-- Over a snapshot all calls for the key, after whatever requests, have one outcome.  Where no
secret is configured, it is a generated key of the configured length, but of no less than 1024
characters, and its text is drawn at most once.  A secret that is too short is refused, and no key
is ever kept.  Any other secret makes a key that is not generated, that knows the number of
characters of the secret, and that every tenant which accepts the secret comes to, whatever else its
store holds. -/
theorem securityKey_regimes {steps : List Snapshot.Step} {s : Snapshot}
    (built : Snapshot.build steps = .ok s) :
    ∃ outcome : Except ConfigError SecurityKey,
      (∀ requests, (t.serve s.store (t.memoryAfter s.store .empty requests)
        .securityKey).value.1 = outcome) ∧
      (s.store.keySecret? = none →
        (∃ k, outcome = .ok k ∧ k.ephemeral = true
          ∧ k.sourceLength = max 1024 t.properties.ephemeralKeyLength) ∧
        ∀ requests, (t.memoryAfter s.store .empty requests).draws ≤ 1) ∧
      (∀ secret, s.store.keySecret? = some secret →
        secret.text.length < t.properties.minKeyLength →
        outcome = .error
            (.unrecoverable .invalidSecurityKey (.shortKey t.properties.minKeyLength)) ∧
        ∀ requests, (t.memoryAfter s.store .empty requests).stats.key = false) ∧
      ∀ secret, s.store.keySecret? = some secret →
        t.properties.minKeyLength ≤ secret.text.length →
        ∃ k, outcome = .ok k ∧ k.ephemeral = false ∧ k.sourceLength = secret.text.length ∧
          k.material = Sha256.digest (Utf8.encode secret.text) ∧
          ∀ (other : Tenant) (elsewhere : Store) (requests : List Request),
            elsewhere.keySecret? = some secret →
            other.properties.minKeyLength ≤ secret.text.length →
            (other.serve elsewhere (other.memoryAfter elsewhere .empty requests)
              .securityKey).value.1 = .ok k := by
  refine ⟨t.derive s.store .key,
    fun requests => t.serve_memoryAfter_eq_answer s.store requests .securityKey,
    fun unset => ?_, fun secret set short => ?_, fun secret set long => ?_⟩
  -- no secret: the outcome is made of the first draw, and there is no other one
  · obtain ⟨stored, hs⟩ := Snapshot.exists_password built
    have generated := t.derive_key_of_no_secret hs unset
    refine ⟨⟨_, generated, rfl, ?_⟩, t.draws_memoryAfter_le_one s.store⟩
    show (SecurityKey.drawText (t.words 0) t.properties.keyLength).length = _
    rw [SecurityKey.length_drawText, Properties.keyLength, Nat.max_comm]
    rfl
  -- a short secret: what every call derives is the refusal, so that nothing is kept
  · have refused := t.derive_key_of_secret set
    rw [if_pos (show secret.length < _ from short)] at refused
    exact ⟨refused, t.stats_key_memoryAfter_eq_false refused⟩
  -- a long secret: the key depends on the secret alone, for this tenant as for any other
  · have accepted : ∀ (other : Tenant) {elsewhere : Store}, elsewhere.keySecret? = some secret →
        other.properties.minKeyLength ≤ secret.text.length →
        other.derive elsewhere .key = .ok (.ofText secret.text false) := by
      intro other elsewhere configured enough
      have derived := other.derive_key_of_secret configured
      rwa [if_neg (show ¬ secret.length < _ from Nat.not_lt.mpr enough)] at derived
    refine ⟨_, accepted t set long, rfl, rfl, rfl, ?_⟩
    intro other elsewhere requests configured enough
    exact (other.serve_memoryAfter_eq_answer elsewhere requests .securityKey).trans
      (accepted other configured enough)

/-- A secret of just enough characters, three of them wide, in a tenant that was asked for its key
before. -/
theorem securityKey_regimes_wide_secret :
    let secret : Secret := ⟨"schlüssel-für-mehrere-tausend-öl"⟩
    let steps : List Snapshot.Step := [.value Schema.securityKey (.password (some secret))]
    let s := Snapshot.empty.put Schema.securityKey none (.password (some secret))
    let t : Tenant := ⟨"example.org", .default, fun _ _ => 0⟩
    Snapshot.build steps = .ok s ∧
      ∃ k, (t.serve s.store (t.memoryAfter s.store .empty [.digest, .securityKey])
        .securityKey).value.1 = .ok k ∧ k.ephemeral = false ∧ k.sourceLength = 32 := by
  intro secret steps s t
  have built : Snapshot.build steps = .ok s := rfl
  obtain ⟨outcome, same, -, -, long⟩ := t.securityKey_regimes built
  obtain ⟨k, made, lasting, length, -⟩ := long secret rfl (by decide)
  exact ⟨built, k, (same [.digest, .securityKey]).trans made, lasting, length.trans (by decide)⟩

end Tenant

end TenantSettings

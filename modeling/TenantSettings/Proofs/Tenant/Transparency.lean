import TenantSettings.Proofs.Tenant.Key

/-!
# The memory of a tenant is transparent

What a tenant keeps makes it faster and changes no answer: after any run of requests, failed ones
included, a request comes to what it comes to as the first request of a fresh tenant.  The fresh
tenant may even serve another domain, and it draws its own random words; only a generated key, which
is drawn from them, is a tenant's own.

* `Tenant.answer_elsewhere`: neither the domain nor the random words show in an answer.
* `Tenant.serve_memoryAfter`: no earlier request changes a later answer.
-/

namespace TenantSettings.Tenant

variable (t : Tenant) (store : Store) (domain : String) (words : Nat → Nat → Nat)

/-! ### Answers do not show whose they are -/

/-- The domain only shows in what is logged about unknown storage words. -/
lemma result_storageLocations (s : Setting) :
    (t.storageLocations s).result store = do
      return (storageWords (← (t.plain.text s).result store)).filterMap (·.toOption) := by
  unfold storageLocations
  rw [Read.result_bind]
  congr 1
  funext text
  rw [Read.result_bind, Read.result_forIn_yield]
  · rfl
  · intro word
    cases word <;> rfl

/-- The domain only shows in what is logged about an unknown storage method. -/
lemma result_tokenStorage :
    t.tokenStorage.result store = do
      return Literal.ofText? (← (t.plain.text Schema.tokenStorageMethod).result store) := by
  unfold tokenStorage
  rw [Read.result_bind]
  congr 1
  funext word
  cases (Literal.ofText? word : Option TokenStorage) <;> rfl

/-- What a store yields, the key set apart, depends neither on the domain nor on the random
words. -/
lemma derive_elsewhere {x : Derived} (hx : x ≠ .keyText) (hk : x ≠ .key) :
    derive ⟨domain, t.properties, words⟩ store x = t.derive store x := by
  cases x with
  | profiles d => simp only [derive, result_buildProfiles]; rfl
  | directories => simp only [derive, result_buildProfiles]; rfl
  | policy id locale => simp only [derive, result_buildPolicy]; rfl
  | bundle b key => rfl
  | keyText => exact absurd rfl hx
  | key => exact absurd rfl hk
  | digest => rfl

/-- Every answer but a key is the same from a tenant elsewhere. -/
lemma answer_elsewhere {r : Request} (hr : r ≠ .securityKey) :
    answer ⟨domain, t.properties, words⟩ store r = t.answer store r := by
  have same : ∀ {x : Derived}, x ≠ .keyText → x ≠ .key →
      derive ⟨domain, t.properties, words⟩ store x = t.derive store x :=
    t.derive_elsewhere store domain words
  -- what is derived is the same one by one, and no other answer depends on the domain
  cases r with
  | profiles d => exact same (x := .profiles d) (by simp) (by simp)
  | profilesOf k => simp only [answer, same (x := .profiles (.ofKind k)) (by simp) (by simp)]
  | directories => exact same (x := .directories) (by simp) (by simp)
  | defaultDirectory => simp only [answer, same (x := .directories) (by simp) (by simp)]
  | publicPeopleSearch =>
      simp only [answer, same (x := .profiles .peopleSearchPublic) (by simp) (by simp)]
      rfl
  | passwordPolicy profile locale =>
      have policy : ∀ id, derive ⟨domain, t.properties, words⟩ store (.policy id locale)
          = t.derive store (.policy id locale) := fun id => same (by simp) (by simp)
      simp only [answer, policy]
  | securityKey => exact absurd rfl hr
  | localizedBundle b key => exact same (x := .bundle b key) (by simp) (by simp)
  | digest => exact same (x := .digest) (by simp) (by simp)
  | storageLocations s => simp only [answer, result_storageLocations]; rfl
  | tokenStorage => simp only [answer, result_tokenStorage]; rfl
  | _ => rfl

/-! ### Earlier requests do not show either -/

/-- After any run of requests, whatever came of them, a request is answered with the value or the
error that it comes to as the only request of a fresh tenant with the same properties.  The key is
meant only where one is configured: a generated one differs from tenant to tenant. -/
theorem serve_memoryAfter (requests : List Request) (r : Request)
    (configured : r = .securityKey → store.keySecret?.isSome) :
    (t.serve store (t.memoryAfter store .empty requests) r).value.1
      = (serve ⟨domain, t.properties, words⟩ store .empty r).value.1 := by
  have elsewhere : t.answer store r = answer ⟨domain, t.properties, words⟩ store r := by
    by_cases key : r = .securityKey
    · subst key
      obtain ⟨secret, stored⟩ := Option.isSome_iff_exists.mp (configured rfl)
      show t.derive store .key = derive ⟨domain, t.properties, words⟩ store .key
      rw [derive_key_of_secret _ stored, derive_key_of_secret _ stored]
    · exact (t.answer_elsewhere store domain words key).symm
  calc (t.serve store (t.memoryAfter store .empty requests) r).value.1
      = t.answer store r := t.serve_memoryAfter_eq_answer store requests r
    _ = answer ⟨domain, t.properties, words⟩ store r := elsewhere
    _ = (serve ⟨domain, t.properties, words⟩ store .empty r).value.1 :=
        (serve_memoryAfter_eq_answer ⟨domain, t.properties, words⟩ store [] r).symm

/-- A tenant that was asked for its key and its directories, asked for the key again. -/
theorem serve_memoryAfter_configured_key :
    let secret : StoredValue := .password (some ⟨"correct horse battery staple for ever"⟩)
    let store := Snapshot.empty.store.answering (.value Schema.securityKey none) secret
    let used : Tenant := ⟨"example.org", .default, fun _ _ => 0⟩
    let fresh : Tenant := ⟨"example.com", .default, fun _ n => n⟩
    store.keySecret?.isSome ∧
      (used.serve store (used.memoryAfter store .empty [.securityKey, .directories])
        .securityKey).value.1 = (fresh.serve store .empty .securityKey).value.1 := by
  intro secret store used fresh
  have configured : store.keySecret?.isSome := rfl
  exact ⟨configured, used.serve_memoryAfter store fresh.domain fresh.words
    [.securityKey, .directories] .securityKey fun _ => configured⟩

end TenantSettings.Tenant

import TenantSettings.Proofs.Digest.Reading
import TenantSettings.Proofs.Tenant.Soundness

/-!
# How far a digest identifies a configuration

Equal digests mean equal configurations, unless SHA-256 itself collides, as long as no profile id
and no bundle key looks like the start of what follows it in the covered text.  Without that bound
they do not: a profile id can hold a whole record, and then one value is covered by the same bytes
as two.

* `coveredBytes`: what is hashed; `Tenant.digest_eq`: the digest of a tenant is their hash.
* `Snapshot.digest_identifies`: what equal digests mean, names being plain.
* `Snapshot.coveredBytes_absorbed`: for every setting with profiles, two values that are covered as
  one; `Listing.bundleText_absorbed`: the same for bundle keys.
* `Snapshot.digest_confuses_directories`: two directories and one, with the same digest.
-/

namespace TenantSettings

/-! ### What is hashed -/

/-- The bytes that the digest of a configuration is taken over. -/
def coveredBytes (store : Store) : List UInt8 := Utf8.encode (coveredText.run store).value

/-- Whatever was asked before, the digest of a tenant is the SHA-256 digest of what it covers. -/
lemma Tenant.digest_eq (t : Tenant) (store : Store) (requests : List Request) :
    (t.serve store (t.memoryAfter store .empty requests) .digest).value.1
      = .ok (Hex.encode (Sha256.digest (coveredBytes store))) := by
  rw [serve_memoryAfter_eq_answer]
  show computeDigest.result store = _
  rw [computeDigest, Read.result_lift, Inquiry.run_bind]
  rfl

namespace Snapshot

/-! ### Plain names -/

/-- The listing of a snapshot names settings of the schema, and no empty texts. -/
lemma Known.sound_listing {s : Snapshot} (h : s.Known) : s.listing.Sound := by
  refine ⟨fun e mem => ?_, fun e mem => ?_⟩
  · exact h.settings e.1 (List.mem_map_of_mem (List.mem_of_mem_filter mem))
  · obtain ⟨k, -, rfl⟩ := List.mem_map.mp mem
    intro bare
    obtain ⟨-, filled⟩ := Option.filter_eq_some_iff.mp bare
    cases filled

/-- Of two snapshots, built in any way from settings of the schema and texts of bundles under names
that look like nothing that could follow them: the listings hold the modified records in their
order, with what is stored for them.  If the listings differ then so do the bytes that are hashed;
and if the digests are equal, whatever else the two tenants were asked before, then the listings
are, or else SHA-256 collides on them. -/
theorem digest_identifies {steps steps' : List Step} {s s' : Snapshot}
    (known : ∀ step ∈ steps, step.Known) (known' : ∀ step ∈ steps', step.Known)
    (built : build steps = .ok s) (built' : build steps' = .ok s')
    (plain : s.listing.PlainNames) (plain' : s'.listing.PlainNames) :
    s.listing.keys = s.modified
      ∧ (s.listing ≠ s'.listing → coveredBytes s.store ≠ coveredBytes s'.store)
      ∧ ∀ (t t' : Tenant) (asked asked' : List Request),
          (t.serve s.store (t.memoryAfter s.store .empty asked) .digest).value.1
            = (t'.serve s'.store (t'.memoryAfter s'.store .empty asked') .digest).value.1 →
          s.listing = s'.listing ∨ (coveredBytes s.store ≠ coveredBytes s'.store
            ∧ Sha256.digest (coveredBytes s.store) = Sha256.digest (coveredBytes s'.store)) := by
  have of_steps : s.Known := .of_build known built
  have of_steps' : s'.Known := .of_build known' built'
  -- up to the hash everything can be undone: the encoding, the text and the listing
  have identified : coveredBytes s.store = coveredBytes s'.store → s.listing = s'.listing := by
    intro same
    have texts : s.listing.text = s'.listing.text := by
      rw [← value_coveredText of_steps, ← value_coveredText of_steps']
      exact Utf8.encode_inj same
    exact Listing.text_inj of_steps.sound_listing of_steps'.sound_listing plain plain' texts
  refine ⟨keys_listing of_steps, mt identified, fun t t' asked asked' same => ?_⟩
  rw [Tenant.digest_eq, Tenant.digest_eq, Except.ok.injEq] at same
  have hashes : Sha256.digest (coveredBytes s.store) = Sha256.digest (coveredBytes s'.store) := by
    have digits := congrArg Hex.decode same
    rw [Hex.decode_encode, Hex.decode_encode] at digits
    exact Option.some.inj digits
  -- so different bytes under one digest are a collision, and equal ones are one listing
  by_cases bytes : coveredBytes s.store = coveredBytes s'.store
  · exact .inl (identified bytes)
  · exact .inr ⟨bytes, hashes⟩

/-- A directory and a title, with one server or with another. -/
theorem digest_identifies_directories :
    let steps (server : String) : List Step :=
      [.profileValue Schema.ldapServerAddresses "east" (.texts [server]),
        .bundle .display "Title" [("en", "Welcome")]]
    ∃ s s' : Snapshot, build (steps "ldaps://a") = .ok s ∧ build (steps "ldaps://b") = .ok s'
      ∧ s.listing.PlainNames ∧ s'.listing.PlainNames ∧ s.listing ≠ s'.listing
      ∧ coveredBytes s.store ≠ coveredBytes s'.store := by
  intro steps
  have known : ∀ server, ∀ step ∈ steps server, step.Known := by
    have listed : Schema.ldapServerAddresses ∈ Schema.all := by decide
    simp [steps, Step.Known, listed]
  have built : ∀ server, build (steps server) = .ok ((steps server).foldl apply empty) :=
    fun server => rfl
  have listed : ∀ server, ((steps server).foldl apply empty).listing
      = ⟨[((Schema.ldapServerAddresses, some "east"), .texts [server])],
          [((.display, "Title"), some (.ofList [("en", "Welcome")]))]⟩ :=
    fun server => rfl
  have plain : ∀ server, ((steps server).foldl apply empty).listing.PlainNames := by
    intro server
    rw [listed]
    refine ⟨fun e mem id hid => ?_, fun e mem => ?_⟩
    · rw [List.mem_singleton.mp mem] at hid
      cases hid
      decide
    · rw [List.mem_singleton.mp mem]
      decide
  have differ : ((steps "ldaps://a").foldl apply empty).listing
      ≠ ((steps "ldaps://b").foldl apply empty).listing := by
    rw [listed, listed]
    decide
  exact ⟨_, _, built _, built _, plain _, plain _, differ, (digest_identifies (known _) (known _)
    (built _) (built _) (plain _) (plain _)).2.1 differ⟩

end Snapshot

/-! ### Names that hold a record -/

namespace Listing

/-- A profile id that holds another one, a value under it, and the start of a further record of the
same setting. -/
def absorbingId (x : Setting) (first : String) (v : StoredValue) (second : String) : String :=
  first ++ "]" ++ v.render ++ (ItemKey.ofSetting x none).describe ++ "[" ++ second

/-- Two values of a setting are covered as one is that has such an id. -/
lemma valueText_absorbed (x : Setting) (first second : String) (v w : StoredValue) :
    valueText ((x, some first), v) ++ valueText ((x, some second), w)
      = valueText ((x, some (absorbingId x first v second)), w) := by
  simp [valueText, absorbingId, ItemKey.describe, ItemKey.ofSetting, String.append_assoc]

/-- A bundle key can hold the texts of another one, or that there are none, in the same way. -/
lemma bundleText_absorbed (b b' : Bundle) (first second : String)
    (m n : Option (OrderedMap String String)) :
    bundleText ((b, first), m) ++ bundleText ((b', second), n)
      = bundleText
          ((b, first ++ (bundleJson m).render ++ (ItemKey.ofBundle b' second).describe), n) := by
  simp [bundleText, ItemKey.describe, ItemKey.ofBundle, ItemKey.bundleId, String.append_assoc]

end Listing

namespace Snapshot

/-- Every setting with profiles can be stored in two ways, under two profiles or under one, that
differ in what is stored and agree in the bytes that are hashed. -/
theorem coveredBytes_absorbed {x : Setting} (known : x ∈ Schema.all)
    (profiled : x.isProfiled = true) {v w : StoredValue} (hv : x.admits v = true)
    (hw : x.admits w = true) (changed : v ≠ x.defaultValue) (changed' : w ≠ x.defaultValue)
    {first second : String} (differ : first ≠ second) :
    let two := [Step.profileValue x first v, .profileValue x second w]
    let one := [Step.profileValue x (Listing.absorbingId x first v second) w]
    ∃ s s' : Snapshot, build two = .ok s ∧ build one = .ok s' ∧ s.listing ≠ s'.listing
      ∧ coveredBytes s.store = coveredBytes s'.store := by
  intro two one
  -- both configurations are built, since a value under any id is a step without a fault
  have faultless : ∀ (id : String) {u : StoredValue}, x.admits u = true →
      (Step.profileValue x id u).fault? = none :=
    fun id u hu => fault?_profileValue_eq_none_iff.mpr ⟨profiled, hu⟩
  have built : build two = .ok (two.foldl apply empty) := by
    refine build_eq_ok_iff.mpr ⟨?_, rfl⟩
    simp [two, faultless, hv, hw]
  have built' : build one = .ok (one.foldl apply empty) := by
    refine build_eq_ok_iff.mpr ⟨?_, rfl⟩
    simp [one, faultless, hw]
  -- the listings differ in their length already: two records against one
  have listed : (two.foldl apply empty).listing
      = ⟨[((x, some first), v), ((x, some second), w)], []⟩ := by
    simp [two, apply, put, listing, empty, OrderedMap.insert, OrderedMap.insertEntry,
      OrderedMap.empty, OrderedMap.keys, changed, changed', differ]
  have listed' : (one.foldl apply empty).listing
      = ⟨[((x, some (Listing.absorbingId x first v second)), w)], []⟩ := by
    simp [one, apply, put, listing, empty, OrderedMap.insert, OrderedMap.insertEntry,
      OrderedMap.empty, OrderedMap.keys, changed']
  refine ⟨_, _, built, built', ?_, ?_⟩
  · rw [listed, listed']
    simp
  -- yet the long id spells out the whole first record, so that both texts are the same
  · have text : (two.foldl apply empty).listing.text = (one.foldl apply empty).listing.text := by
      rw [listed, listed']
      simp [Listing.text, Listing.valueText_absorbed]
    have of_two : (two.foldl apply empty).Known :=
      .of_build (by simp [two, Step.Known, known]) built
    have of_one : (one.foldl apply empty).Known :=
      .of_build (by simp [one, Step.Known, known]) built'
    rw [coveredBytes, coveredBytes, value_coveredText of_two, value_coveredText of_one, text]

/-- Two directories, each with a server of its own, and one directory under a name that holds all of
the first and the start of the second: different configurations, with one digest. -/
theorem digest_confuses_directories :
    let two : List Step :=
      [.profileValue Schema.ldapServerAddresses "a" (.texts ["ldaps://a"]),
        .profileValue Schema.ldapServerAddresses "b" (.texts ["ldaps://b"])]
    let one : List Step :=
      [.profileValue Schema.ldapServerAddresses
        "a]\x7b\"syntax\":\"string_array\",\"value\":[\"ldaps://a\"]\x7dSetting:ldap.serverUrls[b"
        (.texts ["ldaps://b"])]
    (∀ step ∈ two ++ one, step.Known)
      ∧ ∃ s s' : Snapshot, build two = .ok s ∧ build one = .ok s' ∧ s.listing ≠ s'.listing
        ∧ coveredBytes s.store = coveredBytes s'.store := by
  intro two one
  have id : Listing.absorbingId Schema.ldapServerAddresses "a" (.texts ["ldaps://a"]) "b"
      = "a]\x7b\"syntax\":\"string_array\",\"value\":[\"ldaps://a\"]\x7dSetting:ldap.serverUrls[b" :=
    by decide
  have known : Schema.ldapServerAddresses ∈ Schema.all := by decide
  refine ⟨by simp [two, one, Step.Known, known], ?_⟩
  have absorbed := coveredBytes_absorbed known rfl (v := .texts ["ldaps://a"])
    (w := .texts ["ldaps://b"]) rfl rfl (by decide) (by decide) (by decide : "a" ≠ "b")
  rw [id] at absorbed
  exact absorbed

end Snapshot

end TenantSettings

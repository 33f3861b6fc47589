import TenantSettings.Proofs.Digest.Listing
import TenantSettings.Proofs.Tenant.Scope
import TenantSettings.Proofs.Tenant.Statistics

/-!
# Names of bundle keys

A bundle and a key are made into one text. Under it texts are kept, and by it the records of bundle
keys are listed, from which the digest finds the bundle and the key again. No bundle has a dash in
its word, so that the text stands for one bundle and one key only, whatever the key is.

* `ItemKey.bundleOfId?_eq_some_iff`: what a text names, if it names anything.
* `ItemKey.mem_asked_content_iff`, `Tenant.mem_asked_computeDigest_iff`: when the texts of a bundle
  key are read for the digest.
* `Tenant.value?_bundles_memoryAfter_iff`: what the slot of a bundle key holds.
* `ItemKey.bundleId_unambiguous`: names, the memory and the digest together.
-/

namespace TenantSettings

variable {b : Bundle} {key : String}

/-! ### Names -/

namespace ItemKey

lemma bundleId_eq_iff {b' : Bundle} {key' : String} :
    bundleId b key = bundleId b' key' ↔ b = b' ∧ key = key' := by
  constructor
  · exact bundleId_inj
  · rintro ⟨rfl, rfl⟩
    rfl

/-- Only the name of a bundle key is found to name it. -/
lemma bundleOfId?_eq_some_iff {id : String} :
    bundleOfId? id = some (b, key) ↔ id = bundleId b key := by
  constructor
  · intro found
    obtain ⟨⟨word, rest⟩, split, found⟩ := Option.bind_eq_some_iff.mp found
    obtain ⟨b', read, same⟩ := Option.bind_eq_some_iff.mp found
    obtain ⟨rfl, rfl⟩ := Prod.mk.inj (Option.some.inj same)
    obtain ⟨whole, -⟩ := Text.splitOnce_eq_some_iff.mp split
    apply String.toList_inj.mp
    rw [whole, bundleId, Literal.text_of_ofText? read]
    simp
  · rintro rfl
    exact bundleOfId?_bundleId b key

/-! ### The digest -/

variable {store : Store}

/-- The texts of a bundle key are read for the records that have its name. -/
lemma mem_asked_content_iff {k : ItemKey} :
    .bundle b key ∈ (k.content.run store).asked
      ↔ k.kind = .localeBundle ∧ k.id = bundleId b key := by
  obtain ⟨kind, id, profile⟩ := k
  rw [← bundleOfId?_eq_some_iff, content]
  cases kind with
  | setting =>
      dsimp only
      split <;> simp [Inquiry.run]
  | localeBundle =>
      dsimp only
      split
      · next found => simp [Inquiry.run, found, eq_comm]
      · next found => simp [Inquiry.run, found]
  | property => simp [Inquiry.run]

end ItemKey

namespace Tenant

variable {t : Tenant} {store : Store}

/-- The texts of a bundle key are read for the digest if a record of its name is listed. -/
lemma mem_asked_computeDigest_iff :
    .bundle b key ∈ (computeDigest.carryOut store).asked
      ↔ ∃ k ∈ store.answer .modified, k.kind = .localeBundle ∧ k.id = ItemKey.bundleId b key := by
  have listed : Question.bundle b key ≠ .modified := by simp
  rw [asked_computeDigest, List.mem_cons, or_iff_right listed, List.mem_flatMap]
  simp only [ItemKey.mem_asked_content_iff]

/-! ### The memory -/

/-- After a run, the slot that goes by the name of a bundle key holds the texts of that bundle key,
and is only filled if they were asked for. -/
lemma value?_bundles_memoryAfter_iff {requests : List Request}
    {texts : Option (OrderedMap Locale String)} :
    ((t.memoryAfter store .empty requests).bundles.slot (ItemKey.bundleId b key)).value? = some texts
      ↔ .localizedBundle b key ∈ requests
        ∧ texts = (store.answer (.bundle b key)).bind localize := by
  have held : ((t.memoryAfter store .empty requests).kept? (.bundle b key)).isSome
      ↔ .localizedBundle b key ∈ requests := by
    rw [t.held_memoryAfter_iff store requests (by simp)]
    simp [Request.bundle_mem_fills, Request.bundleKey?_eq_some_iff]
  -- what is kept is sound, so the slot can only hold the texts of the bundle key
  have own : ∀ texts, (t.memoryAfter store .empty requests).kept? (.bundle b key) = some texts →
      texts = (store.answer (.bundle b key)).bind localize := by
    intro texts kept
    have derived : Except.ok ((store.answer (.bundle b key)).bind localize) = Except.ok texts :=
      (sound_memoryAfter (Memory.sound_empty t store) requests).kept kept
    exact (Except.ok.inj derived).symm
  constructor
  · intro kept
    exact ⟨held.mp (Option.isSome_of_eq_some kept), own texts kept⟩
  · rintro ⟨asked, rfl⟩
    obtain ⟨texts, kept⟩ := Option.isSome_iff_exists.mp (held.mpr asked)
    rw [← own texts kept]
    exact kept

end Tenant

/-! ### All together -/

/-- A bundle key has its name for itself. The name splits at its first dash into the word of the
bundle and the key, and is the only text that is read back as the two. After any run of requests the
slot that goes by the name holds the texts of the bundle key if they were asked for, and nothing
otherwise, and these texts are answered. For the record of the bundle key the digest reads its texts
and no others, and it reads them for no record of another name. -/
theorem ItemKey.bundleId_unambiguous (b : Bundle) (key : String) :
    (∀ b' key', bundleId b key = bundleId b' key' ↔ b = b' ∧ key = key')
      ∧ Text.splitOnce '-' (ofBundle b key).id.toList
          = some ((Literal.text b).toList, key.toList)
      ∧ Literal.ofText? (Literal.text b) = some b
      ∧ (∀ id, bundleOfId? id = some (b, key) ↔ id = (ofBundle b key).id)
      ∧ (∀ (t : Tenant) (store : Store) (requests : List Request),
          (∀ texts, ((t.memoryAfter store .empty requests).bundles.slot (bundleId b key)).value?
              = some texts
            ↔ .localizedBundle b key ∈ requests
              ∧ texts = (store.answer (.bundle b key)).bind Tenant.localize)
          ∧ (t.serve store (t.memoryAfter store .empty requests) (.localizedBundle b key)).value.1
            = .ok ((store.answer (.bundle b key)).bind Tenant.localize))
      ∧ ∀ store : Store,
          (ofBundle b key).content.run store
            = ⟨(bundleJson (store.answer (.bundle b key))).render, [.bundle b key], []⟩
          ∧ (.bundle b key ∈ (Tenant.computeDigest.carryOut store).asked
            ↔ ∃ k ∈ store.answer .modified,
                k.kind = .localeBundle ∧ k.id = (ofBundle b key).id) := by
  refine ⟨fun _ _ => bundleId_eq_iff, splitOnce_bundleId b key, ofText?_text_bundle b,
    fun _ => bundleOfId?_eq_some_iff, fun t store requests => ⟨fun _ => ?_, ?_⟩,
    fun store => ⟨?_, Tenant.mem_asked_computeDigest_iff⟩⟩
  · exact Tenant.value?_bundles_memoryAfter_iff
  · exact t.serve_memoryAfter_eq_answer store requests (.localizedBundle b key)
  · rw [content_ofBundle]
    rfl

end TenantSettings

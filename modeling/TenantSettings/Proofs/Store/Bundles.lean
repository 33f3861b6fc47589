import TenantSettings.Proofs.Store.Modified
import TenantSettings.Proofs.Tenant.Memory

/-!
# Bundle keys among the records

Whether texts override a bundle key is told twice: by the records that differ from their defaults,
which list every key that texts were ever written under, and by the texts that are read, which are
none where the last ones written are empty. The two agree but for keys that were emptied.

* `Snapshot.count_modified_ofBundle`: the record of a bundle key is listed once if anything is
  stored under it, and otherwise not at all.
* `Snapshot.mem_modified_iff_written`, `Snapshot.isSome_bundle_iff`: what is listed and what is read
  after some steps, each from the texts that the steps wrote.
* `Snapshot.listed_iff_readable_iff`: the keys for which the two agree;
  `Snapshot.listed_unreadable`, one for which they do not.
-/

namespace TenantSettings.Snapshot

/-! ### The records of bundle keys -/

section records

variable (s : Snapshot) (b : Bundle) (key : String)

/-- Different bundle keys have different records. -/
lemma nodup_bundleRecords : (s.bundles.keys.map fun k => ItemKey.ofBundle k.1 k.2).Nodup := by
  have distinct : s.bundles.keys.Nodup := s.bundles.nodup
  refine distinct.map fun k l same => ?_
  obtain ⟨bundle, name⟩ := ItemKey.bundleId_inj (congrArg ItemKey.id same)
  exact Prod.ext bundle name

lemma mem_bundleRecords_iff :
    ItemKey.ofBundle b key ∈ (s.bundles.keys.map fun k => ItemKey.ofBundle k.1 k.2)
      ↔ (s.bundles.get? (b, key)).isSome := by
  rw [← s.bundles.mem_keys_iff, List.mem_map]
  constructor
  · rintro ⟨⟨d, k⟩, mem, same⟩
    obtain ⟨rfl, rfl⟩ := ItemKey.bundleId_inj (congrArg ItemKey.id same)
    exact mem
  · exact fun mem => ⟨(b, key), mem, rfl⟩

/-- The record of a bundle key is listed once if anything is stored under the key, be it empty, and
otherwise not at all. -/
lemma count_modified_ofBundle :
    s.modified.count (.ofBundle b key) = if (s.bundles.get? (b, key)).isSome then 1 else 0 := by
  have settings :
      (s.changed.map fun k => ItemKey.ofSetting k.1 k.2).count (.ofBundle b key) = 0 := by
    rw [List.count_eq_zero]
    simp [ItemKey.ofSetting, ItemKey.ofBundle]
  have properties : (s.properties.keys.map ItemKey.ofProperty).count (.ofBundle b key) = 0 := by
    rw [List.count_eq_zero]
    simp [ItemKey.ofProperty, ItemKey.ofBundle]
  calc s.modified.count (.ofBundle b key)
      = (s.bundles.keys.map fun k => ItemKey.ofBundle k.1 k.2).count (.ofBundle b key) := by
        rw [modified_eq, List.count_append, List.count_append, settings, properties]
        omega
    _ = if ItemKey.ofBundle b key ∈ (s.bundles.keys.map fun k => ItemKey.ofBundle k.1 k.2)
          then 1 else 0 := s.nodup_bundleRecords.count
    _ = if (s.bundles.get? (b, key)).isSome then 1 else 0 :=
        if_congr (s.mem_bundleRecords_iff b key) rfl rfl

lemma mem_modified_ofBundle_iff :
    ItemKey.ofBundle b key ∈ s.modified ↔ (s.bundles.get? (b, key)).isSome := by
  rw [← List.count_pos_iff, s.count_modified_ofBundle]
  split <;> simp [*]

end records

/-! ### What the steps wrote -/

section steps

variable {steps : List Step} {s : Snapshot} (built : build steps = .ok s) (b : Bundle)
  (key : String)

include built

lemma get?_bundles_of_build :
    s.bundles.get? (b, key) = (steps.filterMap (Step.texts? b key)).getLast? := by
  obtain ⟨-, rfl⟩ := build_eq_ok_iff.mp built
  exact get?_bundles_foldl steps b key

/-- The record of a bundle key is listed if a step wrote texts under the key, whatever texts. -/
lemma mem_modified_iff_written :
    ItemKey.ofBundle b key ∈ s.modified ↔ ∃ step ∈ steps, (step.texts? b key).isSome := by
  rw [s.mem_modified_ofBundle_iff, get?_bundles_of_build built, List.getLast?_isSome, Ne,
    List.filterMap_eq_nil_iff]
  simp [Option.isSome_iff_ne_none]

/-- Texts are read under a bundle key if the last ones written there are not empty. -/
lemma isSome_bundle_iff :
    (s.bundle b key).isSome ↔ ∃ texts,
      (steps.filterMap (Step.texts? b key)).getLast? = some texts ∧ texts ≠ .empty := by
  have full (texts : OrderedMap String String) : (!texts.isEmpty) = true ↔ texts ≠ .empty := by
    rw [Bool.not_eq_true', ← Bool.not_eq_true, OrderedMap.isEmpty, List.isEmpty_iff]
    exact not_congr ⟨fun bare => OrderedMap.ext bare, fun bare => congrArg _ bare⟩
  rw [Snapshot.bundle, get?_bundles_of_build built, Option.isSome_iff_exists]
  simp only [Option.filter_eq_some_iff, full]

end steps

/-- Over every snapshot that is built, for every key of a bundle: its record is listed at most once,
and it is listed if a step wrote texts under the key, whatever texts; the texts that are read are
the last ones written, and none where these are empty. So the keys that are listed are those that
texts can be read under, but for the keys whose last texts are empty: they are listed for
nothing. -/
theorem listed_iff_readable_iff {steps : List Step} {s : Snapshot} (built : build steps = .ok s)
    (b : Bundle) (key : String) :
    (s.store.answer .modified).count (.ofBundle b key) ≤ 1
      ∧ (ItemKey.ofBundle b key ∈ s.store.answer .modified
          ↔ ∃ step ∈ steps, (step.texts? b key).isSome)
      ∧ s.store.answer (.bundle b key)
          = (steps.filterMap (Step.texts? b key)).getLast?.filter (!·.isEmpty)
      ∧ ((ItemKey.ofBundle b key ∈ s.store.answer .modified
            ↔ (s.store.answer (.bundle b key)).isSome)
          ↔ (steps.filterMap (Step.texts? b key)).getLast? ≠ some .empty) := by
  have listed : ItemKey.ofBundle b key ∈ s.modified ↔ ∃ step ∈ steps, (step.texts? b key).isSome :=
    mem_modified_iff_written built b key
  have stored : s.bundles.get? (b, key) = (steps.filterMap (Step.texts? b key)).getLast? :=
    get?_bundles_of_build built b key
  refine ⟨?_, listed, ?_, ?_⟩
  · show s.modified.count _ ≤ 1
    rw [s.count_modified_ofBundle]
    split <;> omega
  · show s.bundle b key = _
    rw [bundle, stored]
  · show (ItemKey.ofBundle b key ∈ s.modified ↔ (s.bundle b key).isSome) ↔ _
    -- listed if some texts are stored, read if these are not empty: they part at empty texts
    rw [s.mem_modified_ofBundle_iff, isSome_bundle_iff built, stored]
    cases (steps.filterMap (Step.texts? b key)).getLast? with
    | none => simp
    | some texts => simp

/-- A title that is given twice, and a property of the name of its record. -/
theorem listed_iff_readable_iff_title :
    let steps : List Step :=
      [.bundle .display "Title" [("en", "Welcome")], .property "Display-Title" "yes",
        .bundle .display "Title" [("en", "Welcome"), ("de", "Willkommen")]]
    ∃ s, build steps = .ok s
      ∧ (s.store.answer .modified).count (.ofBundle .display "Title") ≤ 1
      ∧ ItemKey.ofBundle .display "Title" ∈ s.store.answer .modified
      ∧ (s.store.answer (.bundle .display "Title")).isSome := by
  intro steps
  have built : build steps = .ok (steps.foldl apply empty) := rfl
  obtain ⟨once, listed, -, agree⟩ := listed_iff_readable_iff built .display "Title"
  have mem := listed.mpr ⟨steps.head (by decide), List.head_mem _, rfl⟩
  exact ⟨_, built, once, mem, (agree.mpr (by decide)).mp mem⟩

/-- Under a title that is given no texts nothing can be read, and its record is listed. -/
theorem listed_unreadable :
    let steps : List Step := [.bundle .display "Title" []]
    ∃ s, build steps = .ok s
      ∧ ItemKey.ofBundle .display "Title" ∈ s.store.answer .modified
      ∧ s.store.answer (.bundle .display "Title") = none :=
  ⟨_, rfl, by decide, rfl⟩

end TenantSettings.Snapshot

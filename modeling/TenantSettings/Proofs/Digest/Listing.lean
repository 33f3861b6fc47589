import TenantSettings.Proofs.Setting.Schema
import TenantSettings.Proofs.Store.Build
import TenantSettings.Proofs.Tenant.Memory

/-!
# What a digest covers

The digest of a configuration is taken over one text: of every record that differs from its default
the description, directly followed by the stored form of what it holds.

* `Listing`: the records of a configuration that differ from their defaults, with what they hold.
* `Snapshot.keys_listing`: they are the modified records of the snapshot.
* `Snapshot.value_coveredText`: the digest covers exactly the text of the listing.
-/

namespace TenantSettings

/-! ### Listings -/

/-- What differs from its default in a configuration, in order: the stored values, then the texts
under the keys of bundles. -/
structure Listing where
  values : List ((Setting × Option String) × StoredValue)
  bundles : List ((Bundle × String) × Option (OrderedMap String String))
deriving DecidableEq

namespace Listing

/-- What the digest covers of a stored value. -/
def valueText (e : (Setting × Option String) × StoredValue) : String :=
  (ItemKey.ofSetting e.1.1 e.1.2).describe ++ e.2.render

/-- What the digest covers of the texts under a key of a bundle. -/
def bundleText (e : (Bundle × String) × Option (OrderedMap String String)) : String :=
  (ItemKey.ofBundle e.1.1 e.1.2).describe ++ (bundleJson e.2).render

/-- The keys of the records. -/
def keys (l : Listing) : List ItemKey :=
  l.values.map (fun e => .ofSetting e.1.1 e.1.2) ++ l.bundles.map fun e => .ofBundle e.1.1 e.1.2

/-- What the digest covers of all records, without anything in between. -/
def text (l : Listing) : String :=
  String.join (l.values.map valueText ++ l.bundles.map bundleText)

end Listing

/-! ### The listing of a snapshot -/

namespace Snapshot

/-- The records of a snapshot that differ from their defaults, properties left aside. -/
def listing (s : Snapshot) : Listing where
  values := s.values.entries.filter fun e => e.2 != e.1.1.defaultValue
  bundles := s.bundles.keys.map fun k => (k, s.bundle k.1 k.2)

/-- A step about settings of the schema and texts of bundles: it stores no property. -/
def Step.Known : Step → Prop
  | .value x _ => x ∈ Schema.all
  | .profileValue x _ _ => x ∈ Schema.all
  | .property _ _ => False
  | _ => True

/-- A snapshot of settings of the schema and texts of bundles. -/
structure Known (s : Snapshot) : Prop where
  settings : ∀ k ∈ s.values.keys, k.1 ∈ Schema.all
  properties : s.properties = .empty

namespace Known

lemma put {s : Snapshot} (h : s.Known) {x : Setting} (hx : x ∈ Schema.all)
    (profile : Option String) (v : StoredValue) : (s.put x profile v).Known := by
  refine ⟨fun k hk => ?_, h.properties⟩
  simp only [Snapshot.put, OrderedMap.keys_insert] at hk
  split at hk
  · exact h.settings k hk
  · rcases List.mem_append.mp hk with old | new
    · exact h.settings k old
    · rw [List.mem_singleton.mp new]
      exact hx

lemma addProfile {s : Snapshot} (h : s.Known) (c : Category) (id : String) :
    (s.addProfile c id).Known := by
  unfold Snapshot.addProfile
  split
  · exact h
  · exact ⟨h.settings, h.properties⟩

/-- Known steps build a known snapshot. -/
lemma of_build {steps : List Step} (known : ∀ step ∈ steps, step.Known) {s : Snapshot}
    (built : build steps = .ok s) : s.Known := by
  have start : Known empty := ⟨fun k hk => absurd hk List.not_mem_nil, rfl⟩
  refine build_induction start (fun s step taken _ h => ?_) built
  have hstep := known step taken
  cases step with
  | value x v => exact h.put hstep none v
  | profileValue x id v => exact (h.addProfile x.category id).put hstep (some id) v
  | profile c id => exact h.addProfile c id
  | bundle b key texts => exact ⟨h.settings, h.properties⟩
  | property name text => exact hstep.elim
  | templates names => exact ⟨h.settings, h.properties⟩

end Known

/-- The listing of a snapshot lists its modified records. -/
lemma keys_listing {s : Snapshot} (h : s.Known) : s.listing.keys = s.modified := by
  have noProperties : s.properties.keys = [] := by
    rw [h.properties]
    rfl
  simp [listing, Listing.keys, modified, noProperties, Function.comp_def]

/-- A stored value is what the store answers. -/
lemma value_of_mem_listing {s : Snapshot} {e : (Setting × Option String) × StoredValue}
    (mem : e ∈ s.listing.values) : s.store.answer (.value e.1.1 e.1.2) = e.2 := by
  have stored : s.values.get? e.1 = some e.2 := OrderedMap.get?_of_mem (List.mem_of_mem_filter mem)
  show (s.values.get? e.1).getD _ = _
  rw [stored]
  rfl

end Snapshot

/-! ### What the digest covers -/

/-- One inquiry for every item of a list: the values along the list. -/
lemma Inquiry.value_mapM {α β : Type} (store : Store) (f : α → Inquiry β) (l : List α) :
    ((l.mapM f).run store).value = l.map fun a => ((f a).run store).value := by
  induction l with
  | nil => rfl
  | cons a rest ih =>
      rw [List.mapM_cons, Inquiry.run_bind]
      simp only [Inquiry.run_bind, Inquiry.run_pure, ih, List.map_cons]

/-- What the digest covers of a setting of the schema: its description and the stored value. -/
lemma ItemKey.value_covered_ofSetting (store : Store) {x : Setting} (hx : x ∈ Schema.all)
    (profile : Option String) :
    ((ofSetting x profile).covered.run store).value
      = (ofSetting x profile).describe ++ (store.answer (.value x profile)).render := by
  have found : (ofSetting x profile).setting? = some x := Schema.byKey?_key hx
  have content : (ofSetting x profile).content
      = Inquiry.ask (.value x profile) fun (v : StoredValue) => .done v.render := by
    rw [ItemKey.content, found]
    rfl
  rw [covered, content]
  rfl

/-- The record of a key of a bundle holds the texts under that key. -/
lemma ItemKey.content_ofBundle (b : Bundle) (key : String) :
    (ofBundle b key).content
      = Inquiry.ask (.bundle b key) fun m => .done (bundleJson m).render := by
  have found : bundleOfId? (ofBundle b key).id = some (b, key) := bundleOfId?_bundleId b key
  rw [content, found]
  rfl

/-- What the digest covers of a key of a bundle: its description and the texts. -/
lemma ItemKey.value_covered_ofBundle (store : Store) (b : Bundle) (key : String) :
    ((ofBundle b key).covered.run store).value
      = (ofBundle b key).describe ++ (bundleJson (store.answer (.bundle b key))).render := by
  rw [covered, content_ofBundle]
  rfl

/-- The digest covers the records that the store lists, one after the other. -/
lemma value_coveredText_eq_join (store : Store) :
    (coveredText.run store).value
      = String.join ((store.answer .modified).map fun k => (k.covered.run store).value) := by
  rw [← Inquiry.value_mapM]
  show (((store.answer .modified).mapM ItemKey.covered >>= fun l => pure (String.join l)).run
    store).value = _
  rw [Inquiry.run_bind]
  rfl

/-- The digest of a snapshot covers the text of its listing. -/
lemma Snapshot.value_coveredText {s : Snapshot} (h : s.Known) :
    (coveredText.run s.store).value = s.listing.text := by
  have values : ∀ e ∈ s.listing.values,
      ((ItemKey.ofSetting e.1.1 e.1.2).covered.run s.store).value = Listing.valueText e := by
    intro e mem
    have known : e.1.1 ∈ Schema.all :=
      h.settings e.1 (List.mem_map_of_mem (List.mem_of_mem_filter mem))
    rw [ItemKey.value_covered_ofSetting s.store known, value_of_mem_listing mem]
    rfl
  have bundles : ∀ e ∈ s.listing.bundles,
      ((ItemKey.ofBundle e.1.1 e.1.2).covered.run s.store).value = Listing.bundleText e := by
    intro e mem
    obtain ⟨k, -, rfl⟩ := List.mem_map.mp mem
    exact ItemKey.value_covered_ofBundle s.store k.1 k.2
  have listed : s.store.answer .modified = s.listing.keys := (keys_listing h).symm
  rw [value_coveredText_eq_join, listed, Listing.keys, List.map_append, List.map_map, List.map_map,
    Listing.text]
  congr 2
  · exact List.map_congr_left values
  · exact List.map_congr_left bundles

end TenantSettings

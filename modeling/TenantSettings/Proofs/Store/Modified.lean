import TenantSettings.Proofs.Read
import TenantSettings.Proofs.Setting.Schema
import TenantSettings.Proofs.Store.Log
import TenantSettings.Tenant.Request

/-!
# What differs from its default

Four answers tell whether a setting differs from its default: the value that is read for it, whether
that is the default, the records that differ from their defaults, and the settings outside of all
profiles that do.  Over a snapshot of settings of the schema they agree.

* `Snapshot.changed`: the settings that differ from their defaults, with their profiles.
* `Snapshot.mem_changed_iff`, `Snapshot.nodup_changed`: they are those, each once.
* `Snapshot.nonDefault_eq`: the settings that a tenant gets from the records are the changed ones
  outside of all profiles.
* `Snapshot.modified_views_agree`: the four answers over every snapshot that is built.
-/

namespace TenantSettings.Snapshot

/-! ### Where stored values come from -/

namespace Step

/-- A step that stores values for settings of the schema only. -/
def OfSchema : Step → Prop
  | .value x _ => x ∈ Schema.all
  | .profileValue x _ _ => x ∈ Schema.all
  | _ => True

variable {step : Step} {x : Setting} {profile : Option String} {v : StoredValue}

/-- A step writes for the settings that it is about. -/
lemma mem_all_of_written? (known : step.OfSchema) (h : step.written? x profile = some v) :
    x ∈ Schema.all := by
  rcases written?_eq_some_iff.mp h with ⟨-, rfl⟩ | ⟨id, -, rfl⟩
  · exact known
  · exact known

/-- A step that may be taken writes under a profile exactly if the setting has profiles. -/
lemma isSome_of_written? (fits : step.Fits) (h : step.written? x profile = some v) :
    profile.isSome = x.isProfiled := by
  rcases written?_eq_some_iff.mp h with ⟨rfl, rfl⟩ | ⟨id, rfl, rfl⟩
  · exact fits.1.symm
  · exact fits.1.symm

end Step

/-- What is stored was written by a step. -/
lemma exists_written_of_get? {steps : List Step} {s : Snapshot} (built : build steps = .ok s)
    {x : Setting} {profile : Option String} {v : StoredValue}
    (stored : s.values.get? (x, profile) = some v) :
    ∃ step ∈ steps, step.Fits ∧ step.written? x profile = some v := by
  obtain ⟨faultless, rfl⟩ := build_eq_ok_iff.mp built
  rw [get?_values_foldl] at stored
  obtain ⟨step, mem, wrote⟩ := List.mem_filterMap.mp (List.mem_of_getLast? stored)
  exact ⟨step, mem, Step.fault?_eq_none_iff.mp (faultless step mem), wrote⟩

/-! ### The settings that differ from their defaults -/

section changed

variable {s : Snapshot}

/-- Whether a setting is the default is whether the default is read for it. -/
lemma isDefault_iff (s : Snapshot) (x : Setting) (profile : Option String) :
    s.isDefault x profile = true ↔ s.value x profile = x.defaultValue := by
  unfold isDefault value
  cases s.values.get? (x, profile) with
  | none => simp
  | some v => simp

/-- The settings that differ from their defaults, with their profiles, in the order in which they
were first stored. -/
def changed (s : Snapshot) : List (Setting × Option String) :=
  (s.values.entries.filter fun e => e.2 != e.1.1.defaultValue).map Prod.fst

lemma nodup_changed (s : Snapshot) : s.changed.Nodup :=
  s.values.nodup.sublist (List.Sublist.map _ List.filter_sublist)

lemma mem_changed_iff {x : Setting} {profile : Option String} :
    (x, profile) ∈ s.changed ↔ s.isDefault x profile = false := by
  constructor
  · intro mem
    obtain ⟨e, kept, same⟩ := List.mem_map.mp mem
    obtain ⟨stored, differs⟩ := List.mem_filter.mp kept
    have found : s.values.get? (x, profile) = some e.2 := same ▸ OrderedMap.get?_of_mem stored
    rw [isDefault, found]
    rw [same] at differs
    simpa using differs
  · intro differs
    unfold isDefault at differs
    cases found : s.values.get? (x, profile) with
    | none => simp [found] at differs
    | some v =>
        rw [found] at differs
        have stored : ((x, profile), v) ∈ s.values.entries := OrderedMap.mem_of_get? found
        exact List.mem_map.mpr
          ⟨_, List.mem_filter.mpr ⟨stored, by simpa using differs⟩, rfl⟩

/-- The records that differ from their defaults are those of the changed settings, and others that
are not about settings. -/
lemma modified_eq (s : Snapshot) :
    s.modified = s.changed.map (fun k => ItemKey.ofSetting k.1 k.2)
      ++ (s.bundles.keys.map (fun k => ItemKey.ofBundle k.1 k.2)
        ++ s.properties.keys.map ItemKey.ofProperty) := by
  simp [modified, changed, Function.comp_def]

/-- What differs from its default was stored. -/
lemma exists_written_of_mem_changed {steps : List Step} (built : build steps = .ok s)
    {k : Setting × Option String} (mem : k ∈ s.changed) :
    ∃ step ∈ steps, step.Fits ∧ ∃ v, step.written? k.1 k.2 = some v := by
  obtain ⟨e, kept, rfl⟩ := List.mem_map.mp mem
  have stored : s.values.get? e.1 = some e.2 := OrderedMap.get?_of_mem (List.mem_of_mem_filter kept)
  obtain ⟨step, taken, fits, wrote⟩ := exists_written_of_get? built stored
  exact ⟨step, taken, fits, e.2, wrote⟩

/-- The settings that differ from their defaults are of the schema if the stored ones are. -/
lemma mem_all_of_mem_changed {steps : List Step} (ofSchema : ∀ step ∈ steps, step.OfSchema)
    (built : build steps = .ok s) {k : Setting × Option String} (mem : k ∈ s.changed) :
    k.1 ∈ Schema.all := by
  obtain ⟨step, taken, -, v, wrote⟩ := exists_written_of_mem_changed built mem
  exact Step.mem_all_of_written? (ofSchema step taken) wrote

/-- A setting differs from its default under a profile only if it has profiles, and outside of all
only if it has none. -/
lemma isSome_of_mem_changed {steps : List Step} (built : build steps = .ok s)
    {k : Setting × Option String} (mem : k ∈ s.changed) : k.2.isSome = k.1.isProfiled := by
  obtain ⟨step, -, fits, v, wrote⟩ := exists_written_of_mem_changed built mem
  exact Step.isSome_of_written? fits wrote

end changed

/-! ### The settings outside of all profiles -/

/-- The changed settings outside of all profiles. -/
def changedPlain (s : Snapshot) : List Setting :=
  (s.changed.filter (·.2.isNone)).map Prod.fst

lemma mem_changedPlain_iff {s : Snapshot} {x : Setting} :
    x ∈ s.changedPlain ↔ (x, none) ∈ s.changed := by
  constructor
  · intro mem
    obtain ⟨⟨y, profile⟩, kept, rfl⟩ := List.mem_map.mp mem
    obtain ⟨changed, plain⟩ := List.mem_filter.mp kept
    obtain rfl : profile = none := Option.isNone_iff_eq_none.mp plain
    exact changed
  · exact fun mem => List.mem_map.mpr ⟨_, List.mem_filter.mpr ⟨mem, rfl⟩, rfl⟩

lemma nodup_changedPlain (s : Snapshot) : s.changedPlain.Nodup := by
  refine (s.nodup_changed.filter _).map_on fun k hk l hl same => Prod.ext same ?_
  rw [Option.isNone_iff_eq_none.mp (List.mem_filter.mp hk).2,
    Option.isNone_iff_eq_none.mp (List.mem_filter.mp hl).2]

/-! ### The records -/

section records

variable {s : Snapshot} (known : ∀ k ∈ s.changed, k.1 ∈ Schema.all)

include known

/-- The record of a setting of the schema is listed once if the setting differs from its default
there, and otherwise not at all. -/
lemma count_modified {x : Setting} (hx : x ∈ Schema.all) (profile : Option String) :
    s.modified.count (.ofSetting x profile) = if s.isDefault x profile then 0 else 1 := by
  -- different settings of the schema have different records
  have inj : ∀ k ∈ s.changed, ∀ y ∈ Schema.all, ∀ scope,
      ItemKey.ofSetting k.1 k.2 = .ofSetting y scope → k = (y, scope) := by
    intro k mem y hy scope same
    have key : k.1.key = y.key := congrArg ItemKey.id same
    exact Prod.ext (Schema.eq_of_key_eq (known k mem) hy key) (congrArg ItemKey.profile same)
  have once : (s.changed.map fun k => ItemKey.ofSetting k.1 k.2).Nodup :=
    s.nodup_changed.map_on fun k hk l hl same => inj k hk l.1 (known l hl) l.2 same
  have listed : ItemKey.ofSetting x profile ∈ (s.changed.map fun k => ItemKey.ofSetting k.1 k.2)
      ↔ s.isDefault x profile = false := by
    rw [← mem_changed_iff, List.mem_map]
    constructor
    · rintro ⟨k, mem, same⟩
      rwa [inj k mem x hx profile same] at mem
    · exact fun mem => ⟨_, mem, rfl⟩
  have others : (s.bundles.keys.map (fun k => ItemKey.ofBundle k.1 k.2)
      ++ s.properties.keys.map ItemKey.ofProperty).count (.ofSetting x profile) = 0 := by
    rw [List.count_eq_zero]
    simp [ItemKey.ofSetting, ItemKey.ofBundle, ItemKey.ofProperty]
  rw [modified_eq, List.count_append, others, once.count, if_congr listed rfl rfl]
  cases s.isDefault x profile <;> rfl

/-- The settings that the records outside of all profiles name are the changed ones there. -/
lemma nonDefault_eq :
    (s.modified.filter (·.profile.isNone)).filterMap ItemKey.setting? = s.changedPlain := by
  have settings : ((s.changed.map fun k => ItemKey.ofSetting k.1 k.2).filter
      (·.profile.isNone)).filterMap ItemKey.setting? = s.changedPlain := by
    have found : ∀ k ∈ s.changed.filter (·.2.isNone),
        (ItemKey.ofSetting k.1 k.2).setting? = some k.1 :=
      fun k mem => Schema.byKey?_key (known k (List.mem_of_mem_filter mem))
    rw [List.filter_map, List.filterMap_map]
    exact (List.filterMap_congr found).trans (congrFun List.filterMap_eq_map _)
  have others : ((s.bundles.keys.map (fun k => ItemKey.ofBundle k.1 k.2)
      ++ s.properties.keys.map ItemKey.ofProperty).filter
        (·.profile.isNone)).filterMap ItemKey.setting? = [] := by
    rw [List.filterMap_eq_nil_iff]
    intro k mem
    rcases List.mem_append.mp (List.mem_of_mem_filter mem) with bundle | property
    · obtain ⟨_, -, rfl⟩ := List.mem_map.mp bundle
      rfl
    · obtain ⟨_, -, rfl⟩ := List.mem_map.mp property
      rfl
  rw [modified_eq, List.filter_append, List.filterMap_append, settings, others, List.append_nil]

end records

/-- The records of the changed settings outside of all profiles stand among the records that differ
from their defaults, in the same order. -/
lemma sublist_modified (s : Snapshot) :
    (s.changedPlain.map fun x => ItemKey.ofSetting x none).Sublist s.modified := by
  have records : s.changedPlain.map (fun x => ItemKey.ofSetting x none)
      = (s.changed.filter (·.2.isNone)).map fun k => ItemKey.ofSetting k.1 k.2 := by
    rw [changedPlain, List.map_map]
    refine List.map_congr_left fun k mem => ?_
    show ItemKey.ofSetting k.1 none = _
    rw [Option.isNone_iff_eq_none.mp (List.mem_filter.mp mem).2]
  rw [records, modified_eq]
  exact (List.filter_sublist.map _).trans (List.sublist_append_left _ _)

/-! ### The four answers -/

/-- Over every snapshot that is built from settings of the schema, whatever else is in it: a setting
is the default, under a profile or outside of all, exactly if the default is read for it; its record
is listed exactly once if it is not the default, and otherwise not at all; and the settings that a
tenant names as not default are those without profiles that are not, each once, in the order of
their records. -/
theorem modified_views_agree {steps : List Step} {s : Snapshot}
    (ofSchema : ∀ step ∈ steps, step.OfSchema) (built : build steps = .ok s) :
    (∀ x ∈ Schema.all, ∀ profile : Option String,
        (s.store.answer (.isDefault x profile) = true
          ↔ s.store.answer (.value x profile) = x.defaultValue)
        ∧ (s.store.answer .modified).count (.ofSetting x profile)
          = if s.store.answer (.isDefault x profile) = true then 0 else 1)
      ∧ ∃ l : List Setting,
          (∀ (t : Tenant) (m : Memory),
            (t.serve s.store m .nonDefaultSettings).value.1 = .ok l)
          ∧ l.Nodup
          ∧ (∀ x, x ∈ l ↔ x ∈ Schema.all ∧ x.isProfiled = false
              ∧ s.store.answer (.isDefault x none) = false)
          ∧ (l.map fun x => ItemKey.ofSetting x none).Sublist (s.store.answer .modified) := by
  have known : ∀ k ∈ s.changed, k.1 ∈ Schema.all :=
    fun k mem => mem_all_of_mem_changed ofSchema built mem
  refine ⟨fun x hx profile => ⟨s.isDefault_iff x profile, count_modified known hx profile⟩,
    s.changedPlain, fun t m => ?_, s.nodup_changedPlain, fun x => ?_, s.sublist_modified⟩
  -- the tenant reads the settings off the records, where each of its own stands once already
  · have answer : (t.serve s.store m .nonDefaultSettings).value.1
        = .ok ((s.modified.filter (·.profile.isNone)).filterMap ItemKey.setting?).eraseDups := rfl
    rw [answer, nonDefault_eq known]
    exact congrArg Except.ok (eraseDups_of_nodup s.nodup_changedPlain)
  · rw [mem_changedPlain_iff]
    constructor
    · intro mem
      exact ⟨known _ mem, (isSome_of_mem_changed built mem).symm, mem_changed_iff.mp mem⟩
    · rintro ⟨-, -, differs⟩
      exact mem_changed_iff.mpr differs

/-- An address, a time that was changed and changed back, servers under a profile, and texts of a
bundle. -/
theorem modified_views_agree_changed_back :
    let steps : List Step :=
      [.value Schema.idleTimeoutSeconds (.number 300),
        .value Schema.siteAddress (.text "https://id.example.org"),
        .profileValue Schema.ldapServerAddresses "west" (.texts ["ldaps://a"]),
        .bundle .display "Title" [("en", "Welcome")],
        .value Schema.idleTimeoutSeconds (.number 600)]
    (∀ step ∈ steps, step.OfSchema) ∧ ∃ s, build steps = .ok s
      ∧ s.modified.count (.ofSetting Schema.idleTimeoutSeconds none) = 0
      ∧ s.modified.count (.ofSetting Schema.ldapServerAddresses (some "west")) = 1
      ∧ ∃ l : List Setting, (∀ (t : Tenant) (m : Memory),
          (t.serve s.store m .nonDefaultSettings).value.1 = .ok l)
        ∧ Schema.siteAddress ∈ l ∧ Schema.idleTimeoutSeconds ∉ l
        ∧ Schema.ldapServerAddresses ∉ l := by
  intro steps
  have idle : Schema.idleTimeoutSeconds ∈ Schema.all := by decide
  have address : Schema.siteAddress ∈ Schema.all := by decide
  have servers : Schema.ldapServerAddresses ∈ Schema.all := by decide
  have ofSchema : ∀ step ∈ steps, step.OfSchema := by
    simp [steps, Step.OfSchema, idle, address, servers]
  have built : build steps = .ok (steps.foldl apply empty) := rfl
  obtain ⟨views, l, served, -, named, -⟩ := modified_views_agree ofSchema built
  refine ⟨ofSchema, _, built, ?_, ?_, l, served, ?_, ?_, ?_⟩
  · exact (views _ idle none).2.trans (by decide)
  · exact (views _ servers (some "west")).2.trans (by decide)
  · exact (named _).mpr ⟨address, rfl, by decide⟩
  · intro mem
    exact absurd ((named _).mp mem).2.2 (by decide)
  · intro mem
    exact absurd ((named _).mp mem).2.1 (by decide)

end TenantSettings.Snapshot

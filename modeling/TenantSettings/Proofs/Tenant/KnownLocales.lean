import TenantSettings.Proofs.Locale.Tag
import TenantSettings.Proofs.OrderedMap
import TenantSettings.Setting.Schema
import TenantSettings.Store.Snapshot
import TenantSettings.Tenant.Request

/-!
# Known locales

The locales that the application offers are those that the stored tags name, each at its first tag.
No locale but the root has an empty language or an empty country, so that each of the others has a
flag.

* `Locale.Named`: a language, and a country if any, that is not empty; `Locale.named_parse`: so is
  every parsed locale but the root.
* `Tenant.serve_knownLocales_flags`: the offered locales and their flags, for any stored tags.
-/

namespace TenantSettings

open Unicode

/-! ### Flags -/

namespace Locale

/-- The language is not empty, and neither is the country where there is one. -/
structure Named (l : Locale) : Prop where
  language : l.language ≠ ""
  country : ∀ country ∈ l.country, country ≠ ""

lemma toLowerChars_ne_nil {cs : List Char} (more : cs ≠ []) : toLowerChars cs ≠ [] := fun gone =>
  more ((recased_toLowerChars caseless_isSeparator cs).eq_nil_iff.mp gone)

lemma toUpperChars_ne_nil {cs : List Char} (more : cs ≠ []) : toUpperChars cs ≠ [] := fun gone =>
  more ((recased_toUpperChars caseless_isSeparator cs).eq_nil_iff.mp gone)

/-- Segments are not empty, and are not made so by a change of case. -/
lemma named_parse {tag : String} (other : parse tag ≠ .root) : (parse tag).Named := by
  have full : ∀ seg ∈ written tag, seg ≠ [] := fun seg mem => (proper_written tag seg mem).1
  constructor
  · rw [language_parse]
    cases segs : written tag with
    | nil => exact absurd (parse_eq_root_iff.mpr segs) other
    | cons first rest =>
        exact mt String.ofList_eq_empty_iff.mp
          (toLowerChars_ne_nil (full first (segs ▸ List.mem_cons_self)))
  · intro country there
    rw [country_parse] at there
    obtain ⟨seg, second, rfl⟩ := Option.map_eq_some_iff.mp there
    exact mt String.ofList_eq_empty_iff.mp
      (toUpperChars_ne_nil (full seg (List.mem_of_getElem? second)))

/-- What is named has a flag. -/
lemma Named.flag_ne_empty {l : Locale} (named : l.Named) : l.flag ≠ "" := by
  have full : l.country.getD l.language ≠ "" := by
    cases there : l.country with
    | none => exact named.language
    | some country => exact named.country country there
  exact mt String.ofList_eq_empty_iff.mp
    (toLowerChars_ne_nil fun gone => full (String.toList_eq_nil_iff.mp gone))

end Locale

/-! ### The offered locales -/

namespace Tenant

variable {store : Store} {tags : List String}

/-- The locales that some tags name, each once; the root where there is no tag. -/
def offered (tags : List String) : List Locale :=
  if tags.isEmpty then [.root] else (tags.map Locale.parse).eraseDups

/-- The tags are asked for once. -/
lemma carryOut_knownLocales (t : Tenant)
    (stored : store.answer (.value Schema.knownLocales none) = .texts tags) :
    t.knownLocales.carryOut store
      = ⟨.ok (offered tags), [.value Schema.knownLocales none], []⟩ := by
  have scope : t.plain.scope Schema.knownLocales = .ok none := rfl
  rw [knownLocales, Read.carryOut_bind, Reader.texts, Reader.carryOut_read, scope]
  dsimp only
  rw [stored]
  rfl

/-- The flags of the offered locales. -/
def flagged (tags : List String) : OrderedMap Locale String :=
  .ofList ((offered tags).map fun l => (l, l.flag))

/-- The flags need no question of their own. -/
lemma carryOut_flags (t : Tenant)
    (stored : store.answer (.value Schema.knownLocales none) = .texts tags) :
    t.flags.carryOut store = ⟨.ok (flagged tags), [.value Schema.knownLocales none], []⟩ := by
  rw [flags, Read.carryOut_bind, t.carryOut_knownLocales stored]
  rfl

lemma offered_ne_nil (tags : List String) : offered tags ≠ [] := by
  cases tags with
  | nil => exact List.cons_ne_nil _ _
  | cons tag rest =>
      have first : Locale.parse tag ∈ offered (tag :: rest) :=
        List.mem_eraseDups.mpr List.mem_cons_self
      exact List.ne_nil_of_mem first

lemma firstOccurrences_offered (more : tags ≠ []) :
    FirstOccurrences (tags.map Locale.parse) (offered tags) := by
  rw [offered, if_neg (by simpa using more)]
  exact firstOccurrences_eraseDups _

lemma nodup_offered (tags : List String) : (offered tags).Nodup := by
  cases tags with
  | nil => exact List.nodup_singleton _
  | cons tag rest => exact (firstOccurrences_offered (List.cons_ne_nil tag rest)).nodup

/-- An offered locale other than the root has the name that its tag gives it. -/
lemma named_of_mem_offered {l : Locale} (mem : l ∈ offered tags) (other : l ≠ .root) :
    l.Named := by
  cases tags with
  | nil => exact absurd (List.mem_singleton.mp mem) other
  | cons tag rest =>
      have first := firstOccurrences_offered (List.cons_ne_nil tag rest)
      obtain ⟨tag, -, rfl⟩ := List.mem_map.mp ((first.mem_iff l).mp mem)
      exact Locale.named_parse other

/-- No locale is offered twice, so each has the one entry that is made for it. -/
lemma entries_flagged (tags : List String) :
    (flagged tags).entries = (offered tags).map fun l => (l, l.flag) := by
  refine OrderedMap.entries_ofList ?_
  rw [List.map_map]
  exact (nodup_offered tags).map fun _ _ same => same

lemma keys_flagged (tags : List String) : (flagged tags).keys = offered tags := by
  rw [OrderedMap.keys, entries_flagged, List.map_map]
  exact List.map_id _

lemma get?_flagged {l : Locale} (mem : l ∈ offered tags) :
    (flagged tags).get? l = some l.flag := by
  have entry : (l, l.flag) ∈ (flagged tags).entries := by
    rw [entries_flagged]
    exact List.mem_map_of_mem mem
  exact OrderedMap.get?_of_mem entry

/-- Whatever tags are stored, some locales are offered, none twice: just the root where no tag is
stored, else those that the tags name, in the order in which they first occur. They are the keys of
the flags, in the same order; and the flag of each but the root is not empty, and is its country in
small letters, or its language where it has no country. -/
theorem serve_knownLocales_flags (t : Tenant) (m : Memory)
    (stored : store.answer (.value Schema.knownLocales none) = .texts tags) :
    ∃ (locales : List Locale) (flags : OrderedMap Locale String),
      t.serve store m .knownLocales
          = ⟨(.ok locales, m), [.value Schema.knownLocales none], []⟩
        ∧ t.serve store m .flags = ⟨(.ok flags, m), [.value Schema.knownLocales none], []⟩
        ∧ locales ≠ [] ∧ locales.Nodup
        ∧ (tags = [] → locales = [.root])
        ∧ (tags ≠ [] → FirstOccurrences (tags.map Locale.parse) locales)
        ∧ flags.keys = locales
        ∧ ∀ l ∈ locales, l ≠ .root → ∃ flag, flags.get? l = some flag ∧ flag ≠ ""
            ∧ (∀ country, l.country = some country → flag = toLower country)
            ∧ (l.country = none → flag = toLower l.language) := by
  refine ⟨offered tags, flagged tags, ?_, ?_, offered_ne_nil tags, nodup_offered tags,
    fun bare => bare ▸ rfl, firstOccurrences_offered, keys_flagged tags, fun l mem other => ?_⟩
  · show (Call.ofRead t.knownLocales).carryOut store m = _
    rw [Call.carryOut_ofRead, t.carryOut_knownLocales stored]
  · show (Call.ofRead t.flags).carryOut store m = _
    rw [Call.carryOut_ofRead, t.carryOut_flags stored]
  · refine ⟨l.flag, get?_flagged mem, (named_of_mem_offered mem other).flag_ne_empty,
      fun country there => ?_, fun bare => ?_⟩
    · rw [Locale.flag, there, Option.getD_some]
    · rw [Locale.flag, bare, Option.getD_none]

/-- Two tags of one locale, one with a country, and one that names the root. -/
theorem serve_knownLocales_flags_repeated :
    let tags := ["en", "de-AT", "EN", "_"]
    let store := (Snapshot.empty.apply (.value Schema.knownLocales (.texts tags))).store
    let t : Tenant := ⟨"example.org", .default, fun _ _ => 0⟩
    store.answer (.value Schema.knownLocales none) = .texts tags
      ∧ ∃ flags : OrderedMap Locale String,
        t.serve store .empty .knownLocales
            = ⟨(.ok [⟨"en"⟩, ⟨"de_AT"⟩, .root], .empty), [.value Schema.knownLocales none], []⟩
          ∧ t.serve store .empty .flags
            = ⟨(.ok flags, .empty), [.value Schema.knownLocales none], []⟩
          ∧ flags.keys = [⟨"en"⟩, ⟨"de_AT"⟩, .root]
          ∧ flags.get? ⟨"en"⟩ = some "en" ∧ flags.get? ⟨"de_AT"⟩ = some "at" := by
  intro tags store t
  have stored : store.answer (.value Schema.knownLocales none) = .texts tags := rfl
  obtain ⟨locales, flags, served, flagsServed, -, -, -, first, keys, each⟩ :=
    t.serve_knownLocales_flags .empty stored
  have known : locales = [⟨"en"⟩, ⟨"de_AT"⟩, .root] :=
    ((first (List.cons_ne_nil _ _)).unique (firstOccurrences_eraseDups _)).trans (by decide)
  subst known
  refine ⟨stored, flags, served, flagsServed, keys, ?_, ?_⟩
  · obtain ⟨flag, found, -, -, language⟩ := each ⟨"en"⟩ (by decide) (by decide)
    rw [found, language (by decide)]
    decide
  · obtain ⟨flag, found, -, country, -⟩ := each ⟨"de_AT"⟩ (by decide) (by decide)
    rw [found, country "AT" (by decide)]
    decide

end Tenant

end TenantSettings

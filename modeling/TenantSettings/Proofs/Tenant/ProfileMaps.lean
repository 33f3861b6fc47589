import TenantSettings.Proofs.Profile.Validity
import TenantSettings.Proofs.Store.Log
import TenantSettings.Proofs.Table
import TenantSettings.Proofs.Tenant.Soundness

/-!
# Maps of profiles

The profiles of a definition are built one by one and handed out together, or not at all.

* `Tenant.built`: the profile of one id, or why there is none; `Tenant.built_of_mem_ofKind`: the
  records of a map are the profiles of its ids.
* `Tenant.profiles_pointwise`: the map of a definition in terms of the profiles of its ids, with its
  reading as records of one kind.
* `Tenant.profiles_valid`: every profile that is handed out keeps the rules of its kind.
-/

namespace TenantSettings

namespace Tenant

open OrderedMap Call

/-! ### Records of one kind -/

lemma exists_entries (k : ProfileKind) {l : List (String × Profile)}
    (same : ∀ e ∈ l, e.2.kind = k) :
    ∃ records : List (String × k.Record), records.map (fun e => (e.1, Profile.mk k e.2)) = l := by
  induction l with
  | nil => exact ⟨[], rfl⟩
  | cons e rest ih =>
      obtain ⟨records, rfl⟩ := ih fun d later => same d (List.mem_cons_of_mem e later)
      obtain ⟨id, kind, record⟩ := e
      obtain rfl : kind = k := same _ List.mem_cons_self
      exact ⟨(id, record) :: records, rfl⟩

/-- A map of profiles of one kind is a map of records of that kind. -/
lemma exists_records {k : ProfileKind} {all : OrderedMap String Profile}
    (same : ∀ e ∈ all.entries, e.2.kind = k) :
    ∃ records : OrderedMap String k.Record, records.map (Profile.mk k) = all := by
  obtain ⟨entries, image⟩ := exists_entries k same
  have nodup : (entries.map Prod.fst).Nodup := by
    have keys := all.nodup
    rw [← image, List.map_map] at keys
    exact keys
  exact ⟨⟨entries, nodup⟩, OrderedMap.ext image⟩

/-- Reading profiles as what they are drops none. -/
lemma ofKind_map (k : ProfileKind) (records : OrderedMap String k.Record) :
    ofKind k (records.map (Profile.mk k)) = records := by
  have kept : ((records.map (Profile.mk k)).entries.filterMap
      fun e => (e.2.as? k).map fun record => (e.1, record)) = records.entries := by
    rw [OrderedMap.map, List.filterMap_map]
    refine (List.filterMap_congr fun e _ => ?_).trans List.filterMap_some
    exact congrArg (Option.map _) (Profile.mk k e.2).as?_kind
  rw [ofKind, kept, ofList_entries]

/-! ### The profiles of a definition -/

section built

variable {t : Tenant} {store : Store} {d : Definition} {k : ProfileKind}

/-- The profile of an id under a definition, or why there is none. -/
def built (t : Tenant) (store : Store) (d : Definition) (id : String) :
    Except ConfigError Profile :=
  (d.build (t.reader (some id))).result store

/-- A profile that is built is of the kind of its definition, goes by its id and keeps the rules of
its kind. -/
lemma valid_of_built {id : String} {p : Profile} (done : t.built store d id = .ok p) :
    d.kind? = some p.kind ∧ p.id = id ∧ p.Valid store d :=
  (d.meets_build rfl).yields done

/-- The map of a definition with a kind is made from the table of the profiles of its ids. -/
lemma derive_profiles (kind : d.kind? = some k) :
    t.derive store (.profiles d)
      = (tabulate (t.built store d) (store.answer (.profileIds d.category))).map ofList := by
  rw [derive, result_buildProfiles, kind]
  simp only [bind_pure_comp]
  rfl

/-- A map that is there has the ids of its category for keys, each at its first occurrence, and
under each id the profile of the id. -/
lemma entries_of_derive_profiles (kind : d.kind? = some k) {all : OrderedMap String Profile}
    (done : t.derive store (.profiles d) = .ok all) :
    all.keys = (store.answer (.profileIds d.category)).eraseDups
      ∧ ∀ e ∈ all.entries, t.built store d e.1 = .ok e.2 := by
  rw [derive_profiles kind] at done
  cases listed : tabulate (t.built store d) (store.answer (.profileIds d.category)) with
  | error e =>
      rw [listed] at done
      cases done
  | ok table =>
      rw [listed] at done
      obtain rfl : ofList table = all := Except.ok.inj done
      obtain ⟨ids, profiles⟩ := rows_of_tabulate listed
      exact ⟨by rw [keys_ofList, ids], fun e mem => profiles e (mem_of_mem_ofList mem)⟩

/-- A map that is missing is missing for the first id whose profile cannot be built. -/
lemma firstFailure_of_derive_profiles (kind : d.kind? = some k) {e : ConfigError}
    (refused : t.derive store (.profiles d) = .error e) :
    FirstFailure (t.built store d) (store.answer (.profileIds d.category)) e := by
  rw [derive_profiles kind] at refused
  cases listed : tabulate (t.built store d) (store.answer (.profileIds d.category)) with
  | ok table =>
      rw [listed] at refused
      cases refused
  | error e' =>
      rw [listed] at refused
      obtain rfl : e' = e := Except.error.inj refused
      exact firstFailure_of_tabulate listed

/-- There is a map exactly if every profile can be built. -/
lemma exists_derive_profiles_iff (kind : d.kind? = some k) :
    (∃ all, t.derive store (.profiles d) = .ok all)
      ↔ ∀ id ∈ store.answer (.profileIds d.category), ∃ p, t.built store d id = .ok p := by
  constructor
  · rintro ⟨all, done⟩ id mem
    obtain ⟨keys, profiles⟩ := entries_of_derive_profiles kind done
    have key : id ∈ all.keys := by
      rw [keys]
      exact List.mem_eraseDups.mpr mem
    obtain ⟨e, entry, rfl⟩ := List.mem_map.mp key
    exact ⟨e.2, profiles e entry⟩
  · intro fine
    cases derived : t.derive store (.profiles d) with
    | ok all => exact ⟨all, rfl⟩
    | error e =>
        obtain ⟨before, id, after, ids, -, broken⟩ := firstFailure_of_derive_profiles kind derived
        obtain ⟨p, done⟩ := fine id (ids ▸ List.mem_append_right before List.mem_cons_self)
        rw [broken] at done
        cases done

/-- The map of a definition with a kind is a map of records of that kind. -/
lemma exists_records_of_derive (kind : d.kind? = some k) {all : OrderedMap String Profile}
    (done : t.derive store (.profiles d) = .ok all) :
    ∃ records : OrderedMap String k.Record, records.map (Profile.mk k) = all := by
  refine exists_records fun e mem => ?_
  have profiled := (valid_of_built ((entries_of_derive_profiles kind done).2 e mem)).1
  exact Option.some.inj (profiled.symm.trans kind)

/-- The records of a map are the profiles of ids of its category, read as what they are. -/
lemma built_of_mem_ofKind (kind : d.kind? = some k) {all : OrderedMap String Profile}
    (done : t.derive store (.profiles d) = .ok all) {id : String} {record : k.Record}
    (mem : (id, record) ∈ (ofKind k all).entries) :
    id ∈ store.answer (.profileIds d.category) ∧ t.built store d id = .ok ⟨k, record⟩ := by
  obtain ⟨records, rfl⟩ := exists_records_of_derive kind done
  obtain ⟨keys, profiles⟩ := entries_of_derive_profiles kind done
  rw [ofKind_map] at mem
  have entry : (id, Profile.mk k record) ∈ (records.map (Profile.mk k)).entries :=
    List.mem_map.mpr ⟨(id, record), mem, rfl⟩
  have key : id ∈ (records.map (Profile.mk k)).keys := List.mem_map.mpr ⟨_, entry, rfl⟩
  rw [keys] at key
  exact ⟨List.mem_eraseDups.mp key, profiles (id, Profile.mk k record) entry⟩

end built

/-! ### Maps that are handed out -/

/-- A memory that is sound keeps no map that cannot be derived. -/
lemma profiles_isFilled_eq_false {t : Tenant} {store : Store} {d : Definition} {m : Memory}
    {e : ConfigError} (sound : m.Sound t store)
    (refused : t.derive store (.profiles d) = .error e) : (m.profiles.slot d).isFilled = false := by
  cases kept : m.kept? (.profiles d) with
  | none =>
      have missing : (m.profiles.slot d).value? = none := kept
      rw [Slot.isFilled, missing]
      rfl
  | some all =>
      rw [sound.kept kept] at refused
      cases refused

variable (t : Tenant) (store : Store) (requests : List Request)

/-- After any run of requests, the map of a definition with a kind is handed out exactly if the
profile of every id of its category can be built. Its keys are then the ids, each at its first
occurrence, under each id stands the profile of the id, which goes by it, and reading the map as
records of the kind gives the same profiles under the same keys. Otherwise the first id whose
profile cannot be built gives the error, of the map and of its records, and no map is kept. -/
theorem profiles_pointwise {d : Definition} {k : ProfileKind} (kind : d.kind? = some k) :
    let ids := store.answer (.profileIds d.category)
    let m := t.memoryAfter store .empty requests
    let served := t.serve store m (.profiles d)
    let typed := (t.profilesAs k d).carryOut store m
    ((∃ all, served.value.1 = .ok all) ↔ ∀ id ∈ ids, ∃ p, t.built store d id = .ok p)
      ∧ (∀ all, served.value.1 = .ok all →
          all.keys = ids.eraseDups
            ∧ (∀ e ∈ all.entries, t.built store d e.1 = .ok e.2 ∧ e.2.id = e.1)
            ∧ ∃ records, typed.value.1 = .ok records ∧ records.keys = all.keys
              ∧ records.map (Profile.mk k) = all)
      ∧ ∀ e, served.value.1 = .error e →
          FirstFailure (t.built store d) ids e ∧ typed.value.1 = .error e
            ∧ (served.value.2.profiles.slot d).isFilled = false
            ∧ (typed.value.2.profiles.slot d).isFilled = false := by
  intro ids m served typed
  have sound : m.Sound t store := sound_memoryAfter (Memory.sound_empty t store) requests
  obtain ⟨whole, kept, -⟩ := t.profiles_yields store d m sound
  obtain ⟨read, keptToo, -⟩ := t.profilesAs_yields store k d m sound
  -- what is served is what is derived, whatever the memory holds; the rest is about that
  have whole : served.value.1 = t.derive store (.profiles d) := whole
  refine ⟨whole ▸ exists_derive_profiles_iff kind, fun all done => ?_, fun e refused => ?_⟩
  · rw [whole] at done
    obtain ⟨keys, profiles⟩ := entries_of_derive_profiles kind done
    have same : ∀ e ∈ all.entries, e.2.kind = k := by
      intro e mem
      obtain ⟨ofKind, -, -⟩ := valid_of_built (profiles e mem)
      exact Option.some.inj (ofKind.symm.trans kind)
    have named : ∀ e ∈ all.entries, e.2.id = e.1 :=
      fun e mem => (valid_of_built (profiles e mem)).2.1
    -- all profiles are of the kind, so that no entry is lost where they are read as records
    obtain ⟨records, rfl⟩ := exists_records same
    refine ⟨keys, fun e mem => ⟨profiles e mem, named e mem⟩, records, ?_, ?_, rfl⟩
    · rw [done] at read
      exact read.trans (congrArg Except.ok (ofKind_map k records))
    · exact (records.keys_map (Profile.mk k)).symm
  · rw [whole] at refused
    rw [refused] at read
    exact ⟨firstFailure_of_derive_profiles kind refused, read,
      profiles_isFilled_eq_false kept refused, profiles_isFilled_eq_false keptToo refused⟩

/-- One-time passwords under ids of which one is listed twice. -/
theorem profiles_pointwise_repeated_id :
    let store := Snapshot.empty.store.answering (.profileIds .setupOtp) ["west", "east", "west"]
    let t : Tenant := ⟨"example.org", .default, fun _ _ => 0⟩
    Definition.setupOtp.kind? = some .otpSetup
      ∧ ∃ all,
        (t.serve store (t.memoryAfter store .empty []) (.profiles .setupOtp)).value.1 = .ok all
        ∧ all.keys = ["west", "east"] := by
  intro store t
  have kind : Definition.setupOtp.kind? = some .otpSetup := rfl
  obtain ⟨whole, entries, -⟩ := t.profiles_pointwise store [] kind
  have fine : ∀ id ∈ ["west", "east", "west"], ∃ p, t.built store .setupOtp id = .ok p := by
    intro id _
    exact ⟨⟨.otpSetup, ⟨id, [], false⟩⟩, rfl⟩
  obtain ⟨all, served⟩ := whole.mpr fine
  exact ⟨kind, all, served, (entries all served).1.trans (by decide)⟩

/-- After any run of requests and whatever the store answers, every profile in a map that is handed
out is of the kind of the definition, goes by its key and keeps the rules of its kind. -/
theorem profiles_valid {d : Definition} {all : OrderedMap String Profile}
    (served : (t.serve store (t.memoryAfter store .empty requests) (.profiles d)).value.1 = .ok all)
    {id : String} {p : Profile} (mem : (id, p) ∈ all.entries) :
    d.kind? = some p.kind ∧ p.id = id ∧ p.Valid store d := by
  have derived : t.derive store (.profiles d) = .ok all :=
    (t.serve_memoryAfter_eq_answer store requests (.profiles d)).symm.trans served
  cases kind : d.kind? with
  | none =>
      rw [derive, result_buildProfiles, kind] at derived
      obtain rfl : OrderedMap.empty = all := Except.ok.inj derived
      cases mem
  | some k =>
      have done := (entries_of_derive_profiles kind derived).2 (id, p) mem
      rw [← kind]
      exact valid_of_built done

/-- A mail server on a port that is configured. -/
theorem profiles_valid_mail_server :
    let steps : List Snapshot.Step :=
      [.profileValue Schema.emailServerAddress "smtp" (.text "mail.example.org"),
        .profileValue Schema.emailServerPort "smtp" (.number 587)]
    let store := (steps.foldl Snapshot.apply .empty).store
    let t : Tenant := ⟨"example.org", .default, fun _ _ => 0⟩
    let server : EmailServer := ⟨"smtp", "mail.example.org", 587, "", none, ""⟩
    ∃ all, (t.serve store (t.memoryAfter store .empty [.digest]) (.profiles .emailServer)).value.1
        = .ok all
      ∧ ("smtp", ⟨.emailServer, server⟩) ∈ all.entries
      ∧ server.Valid store := by
  intro steps store t server
  have served : (t.serve store (t.memoryAfter store .empty [.digest])
      (.profiles .emailServer)).value.1 = .ok ⟨[("smtp", ⟨.emailServer, server⟩)], by simp⟩ := by
    rw [t.serve_memoryAfter_eq_answer]
    rfl
  have mem := List.mem_singleton_self (("smtp", ⟨.emailServer, server⟩) : String × Profile)
  exact ⟨_, served, mem, (t.profiles_valid store [.digest] served mem).2.2⟩

end Tenant

end TenantSettings

import TenantSettings.Proofs.Tenant.ProfileMaps

/-!
# The directories in use

The directories in use are chosen among all directories, so that a directory that cannot be built
refuses them too, whether it is in use or not. The one that is used by default is the first of them.

* `Tenant.derive_directories`: the directories in use in terms of all.
* `Tenant.exists_directories`: all directories, where each can be built.
* `Tenant.exists_firstFailure`: the first that cannot be built, where one cannot.
* `Tenant.directories_selected`: which directories are in use and which one is the default, after
  any run of requests.
-/

namespace TenantSettings

namespace Tenant

variable {t : Tenant} {store : Store}

/-- All directories are the profiles of their definition. -/
lemma answer_profilesOf_directory :
    t.answer store (.profilesOf .directory)
      = (t.derive store (.profiles .ldap)).map (ofKind .directory) := by
  show (do return ofKind .directory (← t.derive store (.profiles .ldap))) = _
  cases t.derive store (.profiles .ldap) <;> rfl

/-- The directories in use are those of all that are enabled. -/
lemma derive_directories :
    t.derive store .directories
      = (t.answer store (.profilesOf .directory)).map (·.filterValues (·.enabled)) := by
  rw [answer_profilesOf_directory, derive, derive]
  cases (t.buildProfiles .ldap).result store <;> rfl

section

variable {all : OrderedMap String Directory}
  (listed : t.answer store (.profilesOf .directory) = .ok all)

include listed

lemma answer_directories : t.answer store .directories = .ok (all.filterValues (·.enabled)) := by
  show t.derive store .directories = _
  rw [derive_directories, listed]
  rfl

/-- The default directory is the first of all that is enabled. -/
lemma answer_defaultDirectory :
    t.answer store .defaultDirectory
      = (all.values.find? (·.enabled)).elim (.error (.ofCause .noEnabledDirectory)) .ok := by
  have first : (all.filterValues (·.enabled)).values.head? = all.values.find? (·.enabled) := by
    rw [OrderedMap.values, OrderedMap.values, ← List.head?_filter, List.filter_map]
    rfl
  have inUse : t.derive store .directories = .ok (all.filterValues (·.enabled)) :=
    answer_directories listed
  rw [answer, inUse, ← first]
  cases found : (all.filterValues (·.enabled)).values.head? with
  | none => simp only [bind, Except.bind, found, Option.elim]
  | some d => simp only [bind, Except.bind, found, Option.elim]; rfl

end

section

variable {e : ConfigError} (refused : t.answer store (.profilesOf .directory) = .error e)

include refused

/-- What refuses the directories refuses those in use, -/
lemma answer_directories_of_refused : t.answer store .directories = .error e := by
  show t.derive store .directories = _
  rw [derive_directories, refused]
  rfl

/-- and with them the default one. -/
lemma answer_defaultDirectory_of_refused : t.answer store .defaultDirectory = .error e := by
  have inUse : t.derive store .directories = .error e := answer_directories_of_refused refused
  rw [answer, inUse]
  rfl

end

/-- Where every directory can be built, there is a map of all, by the configured ids. -/
lemma exists_directories
    (fine : ∀ id ∈ store.answer (.profileIds .ldapProfile), ∃ p, t.built store .ldap id = .ok p) :
    ∃ all : OrderedMap String Directory,
      t.answer store (.profilesOf .directory) = .ok all
        ∧ all.keys = (store.answer (.profileIds .ldapProfile)).eraseDups
        ∧ ∀ e ∈ all.entries, t.built store .ldap e.1 = .ok ⟨.directory, e.2⟩ := by
  have kind : Definition.ldap.kind? = some .directory := rfl
  obtain ⟨profiles, derived⟩ := (exists_derive_profiles_iff kind).mpr fine
  obtain ⟨keys, -⟩ := entries_of_derive_profiles kind derived
  obtain ⟨all, rfl⟩ := exists_records_of_derive kind derived
  refine ⟨all, ?_, ?_, fun e mem => ?_⟩
  · rw [answer_profilesOf_directory, derived]
    exact congrArg Except.ok (ofKind_map .directory all)
  · exact (all.keys_map (Profile.mk .directory)).symm.trans keys
  · exact (built_of_mem_ofKind kind derived (by rwa [ofKind_map])).2

/-- Where a directory cannot be built, the first such one refuses all. -/
lemma exists_firstFailure
    (broken : ∃ id ∈ store.answer (.profileIds .ldapProfile), ∃ e,
      t.built store .ldap id = .error e) :
    ∃ e, FirstFailure (t.built store .ldap) (store.answer (.profileIds .ldapProfile)) e
      ∧ t.answer store (.profilesOf .directory) = .error e := by
  have kind : Definition.ldap.kind? = some .directory := rfl
  cases derived : t.derive store (.profiles .ldap) with
  | error e =>
      refine ⟨e, firstFailure_of_derive_profiles kind derived, ?_⟩
      rw [answer_profilesOf_directory, derived]
      rfl
  | ok profiles =>
      obtain ⟨id, configured, e, failed⟩ := broken
      obtain ⟨p, done⟩ := (exists_derive_profiles_iff kind).mp ⟨profiles, derived⟩ id configured
      rw [failed] at done
      cases done

/-- After any run of requests: where every configured directory can be built, enabled or not, all
directories are handed out in the order of their ids, the directories in use are the enabled ones of
them in the same order, the default directory is the first of these, and there is none, which is
reported by a code of its own, exactly if none is enabled. Where one cannot be built, the first such
one gives the error for all three. -/
theorem directories_selected (t : Tenant) (store : Store) (requests : List Request) :
    let ids := store.answer (.profileIds .ldapProfile)
    let served := fun r : Request => (t.serve store (t.memoryAfter store .empty requests) r).value.1
    ((∀ id ∈ ids, ∃ p, t.built store .ldap id = .ok p) →
        ∃ all inUse : OrderedMap String Directory,
          served (.profilesOf .directory) = .ok all ∧ all.keys = ids.eraseDups
            ∧ (∀ e ∈ all.entries, t.built store .ldap e.1 = .ok ⟨.directory, e.2⟩)
            ∧ served .directories = .ok inUse
            ∧ inUse.entries = all.entries.filter (·.2.enabled)
            ∧ (∀ d, served .defaultDirectory = .ok d ↔ all.values.find? (·.enabled) = some d)
            ∧ ((∃ e, served .defaultDirectory = .error e ∧ e.code? = some .noLdapProfile)
                ↔ ∀ d ∈ all.values, d.enabled = false))
      ∧ ((∃ id ∈ ids, ∃ e, t.built store .ldap id = .error e) →
          ∃ e, FirstFailure (t.built store .ldap) ids e
            ∧ served (.profilesOf .directory) = .error e ∧ served .directories = .error e
            ∧ served .defaultDirectory = .error e) := by
  intro ids served
  have answered : ∀ r, served r = t.answer store r :=
    fun r => t.serve_memoryAfter_eq_answer store requests r
  simp only [answered]
  refine ⟨fun fine => ?_, fun broken => ?_⟩
  · obtain ⟨all, listed, keys, built⟩ := exists_directories fine
    refine ⟨all, _, listed, keys, built, answer_directories listed, rfl, fun d => ?_, ?_⟩
    · rw [answer_defaultDirectory listed]
      cases all.values.find? (·.enabled) with
      | none => simp
      | some first => simp
    · rw [answer_defaultDirectory listed]
      cases found : all.values.find? (·.enabled) with
      | none =>
          refine ⟨fun _ d mem => ?_, fun _ => ⟨_, rfl, rfl⟩⟩
          simpa using List.find?_eq_none.mp found d mem
      | some first =>
          have inUse : first.enabled = true := List.find?_some found
          constructor
          · rintro ⟨e, refused, -⟩
            cases refused
          · intro unused
            rw [unused first (List.mem_of_find?_eq_some found)] at inUse
            cases inUse
  · obtain ⟨e, first, refused⟩ := exists_firstFailure broken
    exact ⟨e, first, refused, answer_directories_of_refused refused,
      answer_defaultDirectory_of_refused refused⟩

/-- A directory that is not in use and has no servers, before one that is. -/
theorem directories_selected_second :
    let steps : List Snapshot.Step :=
      [.profileValue Schema.ldapProfileEnabled "west" (.flag false),
        .profileValue Schema.ldapServerAddresses "east" (.texts ["ldaps://a"])]
    let store := (steps.foldl Snapshot.apply .empty).store
    let t : Tenant := ⟨"example.org", .default, fun _ _ => 0⟩
    (∀ id ∈ store.answer (.profileIds .ldapProfile), ∃ p, t.built store .ldap id = .ok p)
      ∧ ∃ d, (t.serve store (t.memoryAfter store .empty [.defaultDirectory, .digest])
          .defaultDirectory).value.1 = .ok d
        ∧ d.id = "east" := by
  intro steps store t
  let directory (id : String) (enabled : Bool) (servers : List String) : Directory :=
    ⟨id, enabled, id, servers, "", none, [], [], Schema.ldapUsernameSearchFilter.default,
      Schema.ldapGuidAttribute.default⟩
  have west : t.built store .ldap "west" = .ok ⟨.directory, directory "west" false []⟩ := rfl
  have east : t.built store .ldap "east" = .ok ⟨.directory, directory "east" true ["ldaps://a"]⟩ :=
    rfl
  have fine : ∀ id ∈ ["west", "east"], ∃ p, t.built store .ldap id = .ok p := by
    simp [west, east]
  obtain ⟨selected, -⟩ := t.directories_selected store [.defaultDirectory, .digest]
  obtain ⟨all, inUse, listed, -, -, -, -, first, -⟩ := selected fine
  have derived : t.derive store (.profiles .ldap)
      = .ok (OrderedMap.ofList [("west", ⟨.directory, directory "west" false []⟩),
          ("east", ⟨.directory, directory "east" true ["ldaps://a"]⟩)]) := by
    rw [derive_profiles rfl]
    show (tabulate (t.built store .ldap) ["west", "east"]).map _ = _
    rw [tabulate_cons, tabulate_cons, west, east]
    rfl
  have both : (t.serve store (t.memoryAfter store .empty [.defaultDirectory, .digest])
      (.profilesOf .directory)).value.1
        = .ok ⟨[("west", directory "west" false []), ("east", directory "east" true ["ldaps://a"])],
          by simp⟩ := by
    rw [t.serve_memoryAfter_eq_answer]
    rw [answer_profilesOf_directory, derived]
    rfl
  obtain rfl := Except.ok.inj (listed.symm.trans both)
  exact ⟨fine, directory "east" true ["ldaps://a"], (first _).mpr rfl, rfl⟩

end Tenant

end TenantSettings

import TenantSettings.Profile.Challenge
import TenantSettings.Tenant.Basic

/-!
# The profiles of a tenant

All profiles of a definition are built together and kept; if one of them cannot be built there are
none.  Password policies are kept per profile and locale, challenge profiles are read anew.

* `Tenant.profiles`: every profile of a definition, by its id.
* `Tenant.directories`: the directories in use.
-/

namespace TenantSettings

namespace Tenant

/-- The event of a profile that cannot be built. -/
def buildFailure (t : Tenant) (d : Definition) (id : String) (e : ConfigError) : Event :=
  ⟨.error, "Failed to build profile: " ++ e.message,
    [("domain", t.domain), ("profile", id), ("definition", Literal.text d)]⟩

/-- One profile of a definition, by its id. -/
def buildProfile (t : Tenant) (d : Definition) (id : String) : Read Profile :=
  (d.build (t.reader (some id))).tellError (t.buildFailure d id)

/-- Every profile of a definition, in configured order of their ids; the first that cannot be built
refuses all. -/
def buildProfiles (t : Tenant) (d : Definition) : Read (OrderedMap String Profile) :=
  match d.kind? with
  | none => return .empty
  | some _ => do
    let ids : List String ← Read.ask (.profileIds d.category)
    let built ← ids.mapM fun id => do return (id, ← t.buildProfile d id)
    let profiles := OrderedMap.ofList built
    Read.tell ⟨.debug, "Profile map built", [("domain", t.domain),
      ("definition", Literal.text d), ("count", toString profiles.size)]⟩
    return profiles

/-- Every profile of a definition; none for a definition whose profiles are not built once. -/
def profiles (t : Tenant) (d : Definition) : Call (OrderedMap String Profile) :=
  .cachedAt Memory.profiles (fun slots m => { m with profiles := slots }) d
    (.ofRead (t.buildProfiles d))

/-- The profiles of a map that are of one kind. -/
def ofKind (k : ProfileKind) (m : OrderedMap String Profile) : OrderedMap String k.Record :=
  .ofList (m.entries.filterMap fun e => (e.2.as? k).map fun record => (e.1, record))

/-- Every profile of a definition, as profiles of one kind. -/
def profilesAs (t : Tenant) (k : ProfileKind) (d : Definition) :
    Call (OrderedMap String k.Record) := do
  return ofKind k (← t.profiles d)

/-- Every profile of a kind. -/
def profilesOf (t : Tenant) (k : ProfileKind) : Call (OrderedMap String k.Record) :=
  t.profilesAs k (.ofKind k)

/-- The directories of all that are in use, with a warning when there is none. -/
def selectDirectories (t : Tenant) : Call (OrderedMap String Directory) := do
  let all : OrderedMap String Directory ← t.profilesOf .directory
  let enabled := all.filterValues (·.enabled)
  if enabled.isEmpty then
    Call.tell ⟨.warn, "No enabled directory profiles configured", [("domain", t.domain)]⟩
  return enabled

/-- The directories in use, in configured order. -/
def directories (t : Tenant) : Call (OrderedMap String Directory) :=
  .cached Memory.directories (fun slot m => { m with directories := slot }) t.selectDirectories

/-- The first directory in use. -/
def defaultDirectory (t : Tenant) : Call Directory := do
  match (← t.directories).values.head? with
  | some directory => return directory
  | none => Call.fail (.ofCause .noEnabledDirectory)

/-- The search for people that is open to the public, where there is one. -/
def publicPeopleSearch (t : Tenant) : Call (Option PeopleSearch) := do
  if !(← t.plain.flag Schema.peopleSearchEnablePublic) then return none
  else
    let id ← Call.ofRead (t.plain.text Schema.peopleSearchPublicProfile)
    let profiles : OrderedMap String PeopleSearch ←
      t.profilesAs .peopleSearch .peopleSearchPublic
    return profiles.get? id

/-- The ids of the profiles of a category. -/
def profileIds (_ : Tenant) (c : Category) : Call (List String) :=
  Call.ofRead (Read.ask (.profileIds c))

/-- The profile id that stands for the empty one where no profile is configured. -/
def defaultProfile : String := "default"

/-- The profile that is meant by an id: itself if it is configured; for the empty id, the first one
configured. -/
def resolveProfile (c : Category) (id : String) (configured : List String) :
    Except ConfigError String :=
  if id.isEmpty then .ok (configured.headD defaultProfile)
  else if id ∈ configured then .ok id
  else .error (.unknownProfile c id)

/-- The password policy of a profile id in a locale, built anew. -/
def buildPolicy (t : Tenant) (id : String) (locale : Locale) : Read PasswordPolicy := do
  let policy ← PasswordPolicy.read (t.reader (some id)) locale
  Read.tell ⟨.debug, "Password policy built",
    [("domain", t.domain), ("profile", id), ("locale", locale.tag)]⟩
  return policy

/-- The password policy of a profile id in a locale, built once. -/
def keptPolicy (t : Tenant) (id : String) (locale : Locale) : Call PasswordPolicy :=
  .cachedAt Memory.policies (fun slots m => { m with policies := slots }) (id, locale)
    (.ofRead (t.buildPolicy id locale))

/-- The password policy of a profile in a locale. -/
def passwordPolicy (t : Tenant) (profile : String) (locale : Locale) : Call PasswordPolicy := do
  let configured ← t.profileIds .passwordPolicy
  let id ← Call.ofRead (Read.ofExcept (resolveProfile .passwordPolicy profile configured))
  t.keptPolicy id locale

/-- The challenge profile of a profile in a locale. -/
def challengeProfile (t : Tenant) (profile : String) (locale : Locale) :
    Call ChallengeProfile := do
  let configured ← t.profileIds .challengePolicy
  let id ← Call.ofRead (Read.ofExcept (resolveProfile .challengePolicy profile configured))
  Call.ofRead (ChallengeProfile.read (t.reader (some id)) locale)

end Tenant

end TenantSettings

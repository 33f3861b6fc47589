import TenantSettings.Tenant.Derived
import TenantSettings.Tenant.Profiles
import TenantSettings.Tenant.Queries

/-!
# Requests

Everything a tenant can be asked, with the type of what is answered.

* `Request.call`: the call that a request is.
* `Tenant.serve`: what comes of a request, given a store and a memory.
* `Tenant.memoryAfter`: the memory that some requests leave.
-/

namespace TenantSettings

/-- What a tenant can be asked. A request with an optional profile is served by the reader of that
profile, or by the one outside of all profiles. -/
inductive Request where
  | read (profile : Option String) (s : Setting) (reading : Reading)
  | raw (profile : Option String) (s : Setting)
  | isDefault (profile : Option String) (s : Setting)
  | profiles (d : Definition)
  | profilesOf (k : ProfileKind)
  | buildProfile (profile : Option String) (d : Definition)
  | directories
  | defaultDirectory
  | publicPeopleSearch
  | profileIds (c : Category)
  | passwordPolicy (profile : String) (locale : Locale)
  | challengeProfile (profile : String) (locale : Locale)
  | securityKey
  | localizedBundle (b : Bundle) (key : String)
  | digest
  | storageLocations (s : Setting)
  | tokenStorage
  | logLevel
  | certificateMatching
  | hasDatabase
  | nonDefaultSettings
  | modified
  | templates
  | knownLocales
  | flags

namespace Request

/-- The type of what a request is answered by. -/
abbrev Answer : Request → Type
  | .read _ _ reading => reading.Answer
  | .raw _ _ => StoredValue
  | .isDefault _ _ => Bool
  | .profiles _ => OrderedMap String Profile
  | .profilesOf k => OrderedMap String k.Record
  | .buildProfile _ _ => Profile
  | .directories => OrderedMap String Directory
  | .defaultDirectory => Directory
  | .publicPeopleSearch => Option PeopleSearch
  | .profileIds _ => List String
  | .passwordPolicy _ _ => PasswordPolicy
  | .challengeProfile _ _ => ChallengeProfile
  | .securityKey => SecurityKey
  | .localizedBundle _ _ => Option (OrderedMap Locale String)
  | .digest => String
  | .storageLocations _ => List StorageMethod
  | .tokenStorage => Option TokenStorage
  | .logLevel => Option LogLevel
  | .certificateMatching => CertificateMatching
  | .hasDatabase => Bool
  | .nonDefaultSettings => List Setting
  | .modified => List ItemKey
  | .templates => List String
  | .knownLocales => List Locale
  | .flags => OrderedMap Locale String

/-- The call that a request is. -/
def call (t : Tenant) : (r : Request) → Call r.Answer
  | .read profile s reading => Call.ofRead ((t.reader profile).read s reading)
  | .raw profile s => Call.ofRead ((t.reader profile).raw s)
  | .isDefault profile s => Call.ofRead ((t.reader profile).isDefault s)
  | .profiles d => t.profiles d
  | .profilesOf k => t.profilesOf k
  | .buildProfile profile d => Call.ofRead (d.build (t.reader profile))
  | .directories => t.directories
  | .defaultDirectory => t.defaultDirectory
  | .publicPeopleSearch => t.publicPeopleSearch
  | .profileIds c => t.profileIds c
  | .passwordPolicy profile locale => t.passwordPolicy profile locale
  | .challengeProfile profile locale => t.challengeProfile profile locale
  | .securityKey => t.securityKey
  | .localizedBundle b key => t.localizedBundle b key
  | .digest => t.digest
  | .storageLocations s => Call.ofRead (t.storageLocations s)
  | .tokenStorage => Call.ofRead t.tokenStorage
  | .logLevel => Call.ofRead t.logLevel
  | .certificateMatching => Call.ofRead t.certificateMatching
  | .hasDatabase => Call.ofRead t.hasDatabase
  | .nonDefaultSettings => Call.ofRead t.nonDefaultSettings
  | .modified => Call.ofRead (Read.ask .modified)
  | .templates => Call.ofRead (Read.ask .templates)
  | .knownLocales => Call.ofRead t.knownLocales
  | .flags => Call.ofRead t.flags

end Request

namespace Tenant

/-- What comes of a request: its answer or an error, and the memory that it leaves. -/
def serve (t : Tenant) (store : Store) (m : Memory) (r : Request) :
    Outcome (Except ConfigError r.Answer × Memory) :=
  (r.call t).carryOut store m

/-- The memory that some requests leave, one after another. -/
def memoryAfter (t : Tenant) (store : Store) (m : Memory) (requests : List Request) : Memory :=
  requests.foldl (fun m r => (t.serve store m r).value.2) m

end Tenant

end TenantSettings

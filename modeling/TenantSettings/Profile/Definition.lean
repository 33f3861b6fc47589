import TenantSettings.Profile.Account
import TenantSettings.Profile.Directory
import TenantSettings.Profile.EmailServer
import TenantSettings.Profile.Search

/-!
# Profiles of any kind

The kinds of profile that are built once per profile id, and the definitions they are asked for by.
Two definitions have no kind: password policies depend on a locale, and challenges are read anew
every time.

* `Definition.build`: the profile of a reader under a definition.
-/

namespace TenantSettings

/-- A kind of profile. -/
inductive ProfileKind where
  | directory | passwordChange | passwordRecovery | activation | registration | helpdesk | otpSetup
  | attributeUpdate | peopleSearch | emailServer
deriving DecidableEq, Repr

/-- The profiles of a kind. -/
abbrev ProfileKind.Record : ProfileKind → Type
  | .directory => Directory
  | .passwordChange => PasswordChange
  | .passwordRecovery => PasswordRecovery
  | .activation => Activation
  | .registration => Registration
  | .helpdesk => Helpdesk
  | .otpSetup => OtpSetup
  | .attributeUpdate => AttributeUpdate
  | .peopleSearch => PeopleSearch
  | .emailServer => EmailServer

/-- A profile of some kind. -/
structure Profile where
  kind : ProfileKind
  record : kind.Record

namespace Profile

/-- The profile as one of a given kind, if it is of that kind. -/
def as? (k : ProfileKind) (p : Profile) : Option k.Record :=
  if h : p.kind = k then some (h ▸ p.record) else none

/-- The id of a profile. -/
def id : Profile → String
  | ⟨.directory, p⟩ => p.id
  | ⟨.passwordChange, p⟩ => p.id
  | ⟨.passwordRecovery, p⟩ => p.id
  | ⟨.activation, p⟩ => p.id
  | ⟨.registration, p⟩ => p.id
  | ⟨.helpdesk, p⟩ => p.id
  | ⟨.otpSetup, p⟩ => p.id
  | ⟨.attributeUpdate, p⟩ => p.id
  | ⟨.peopleSearch, p⟩ => p.id
  | ⟨.emailServer, p⟩ => p.id

/-- A profile is one of its own kind. -/
theorem as?_kind (p : Profile) : p.as? p.kind = some p.record := by simp [as?]

end Profile

/-- What profiles are asked for by. -/
inductive Definition where
  | ldap | passwordPolicy | challenge | changePassword | forgottenPassword | activateUser | newUser
  | helpdesk | setupOtp | updateAttributes | peopleSearch | peopleSearchPublic | emailServer
deriving DecidableEq, Repr

instance : Literal Definition where
  all := [.ldap, .passwordPolicy, .challenge, .changePassword, .forgottenPassword, .activateUser,
    .newUser, .helpdesk, .setupOtp, .updateAttributes, .peopleSearch, .peopleSearchPublic,
    .emailServer]
  text
    | .ldap => "ldap"
    | .passwordPolicy => "password_policy"
    | .challenge => "challenge"
    | .changePassword => "change_password"
    | .forgottenPassword => "forgotten_password"
    | .activateUser => "activate_user"
    | .newUser => "new_user"
    | .helpdesk => "helpdesk"
    | .setupOtp => "setup_otp"
    | .updateAttributes => "update_attributes"
    | .peopleSearch => "people_search"
    | .peopleSearchPublic => "people_search_public"
    | .emailServer => "email_server"

namespace Definition

/-- The category whose profile ids the profiles of a definition go by. -/
def category : Definition → Category
  | .ldap => .ldapProfile
  | .passwordPolicy => .passwordPolicy
  | .challenge => .challengePolicy
  | .changePassword => .changePassword
  | .forgottenPassword => .forgottenPassword
  | .activateUser => .activateUser
  | .newUser => .newUser
  | .helpdesk => .helpdesk
  | .setupOtp => .setupOtp
  | .updateAttributes => .updateAttributes
  | .peopleSearch | .peopleSearchPublic => .peopleSearch
  | .emailServer => .emailServer

/-- The kind of the profiles of a definition, where they are built once per id. -/
def kind? : Definition → Option ProfileKind
  | .ldap => some .directory
  | .passwordPolicy | .challenge => none
  | .changePassword => some .passwordChange
  | .forgottenPassword => some .passwordRecovery
  | .activateUser => some .activation
  | .newUser => some .registration
  | .helpdesk => some .helpdesk
  | .setupOtp => some .otpSetup
  | .updateAttributes => some .attributeUpdate
  | .peopleSearch | .peopleSearchPublic => some .peopleSearch
  | .emailServer => some .emailServer

/-- The definition that the profiles of a kind are asked for by; people search has a second one,
for the public. -/
def ofKind : ProfileKind → Definition
  | .directory => .ldap
  | .passwordChange => .changePassword
  | .passwordRecovery => .forgottenPassword
  | .activation => .activateUser
  | .registration => .newUser
  | .helpdesk => .helpdesk
  | .otpSetup => .setupOtp
  | .attributeUpdate => .updateAttributes
  | .peopleSearch => .peopleSearch
  | .emailServer => .emailServer

/-- The definition of a kind asks for profiles of that kind. -/
theorem kind?_ofKind (k : ProfileKind) : (ofKind k).kind? = some k := by cases k <;> rfl

/-- The record of a reader under a kind of profile. -/
def readRecord (isPublic : Bool) (r : Reader) : (k : ProfileKind) → Read k.Record
  | .directory => Directory.read r
  | .passwordChange => PasswordChange.read r
  | .passwordRecovery => PasswordRecovery.read r
  | .activation => Activation.read r
  | .registration => Registration.read r
  | .helpdesk => Helpdesk.read r
  | .otpSetup => OtpSetup.read r
  | .attributeUpdate => AttributeUpdate.read r
  | .peopleSearch => PeopleSearch.read isPublic r
  | .emailServer => EmailServer.read r

/-- The error that the failure of a profile is reported as: stored data that is unusable speaks for
itself, anything else is a fault of the profile. -/
def buildError (d : Definition) (r : Reader) (e : ConfigError) : ConfigError :=
  match e.code? with
  | some _ => e
  | none => .ofProfile r.profileId (.unreadable (Literal.text d) e.message)

/-- The profile of a reader under a definition. -/
def build (d : Definition) (r : Reader) : Read Profile :=
  match d.kind? with
  | none => Read.fail (.ofCause (.noFactory (Literal.text d)))
  | some k => (Profile.mk k <$> readRecord (d == .peopleSearchPublic) r k).mapError (d.buildError r)

end Definition

end TenantSettings

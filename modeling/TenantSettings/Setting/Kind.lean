import TenantSettings.Literal

/-!
# Shapes and categories of settings

The shape says what kind of value a setting holds; the category says which part of the application
it belongs to, and whether it is stored once or once per named profile.
-/

namespace TenantSettings

/-- What kind of value a setting holds. -/
inductive Shape where
  | text | flag | number | texts | localizedText | localizedTexts | choice | choices | form
  | permissions | actions | webServices | password | namedSecrets | files | certificates
  | privateKey | localizedEmail
deriving DecidableEq, Repr

instance : Literal Shape where
  all := [.text, .flag, .number, .texts, .localizedText, .localizedTexts, .choice, .choices, .form,
    .permissions, .actions, .webServices, .password, .namedSecrets, .files, .certificates,
    .privateKey, .localizedEmail]
  text
    | .text => "string"
    | .flag => "boolean"
    | .number => "numeric"
    | .texts => "string_array"
    | .localizedText => "localized_string"
    | .localizedTexts => "localized_string_array"
    | .choice => "select"
    | .choices => "option_list"
    | .form => "form"
    | .permissions => "user_permission"
    | .actions => "action"
    | .webServices => "remote_web_service"
    | .password => "password"
    | .namedSecrets => "named_secret"
    | .files => "file"
    | .certificates => "x509_cert"
    | .privateKey => "private_key"
    | .localizedEmail => "localized_email"

instance : Worded Shape := {}

/-- The part of the application that a setting belongs to. -/
inductive Category where
  | application | security | database | token | storage | email | webServices | events
  | peopleSearchSwitches | ldapProfile | passwordPolicy | challengePolicy | changePassword
  | forgottenPassword | activateUser | newUser | helpdesk | setupOtp | updateAttributes
  | peopleSearch | emailServer
deriving DecidableEq, Repr

instance : Literal Category where
  all := [.application, .security, .database, .token, .storage, .email, .webServices, .events,
    .peopleSearchSwitches, .ldapProfile, .passwordPolicy, .challengePolicy, .changePassword,
    .forgottenPassword, .activateUser, .newUser, .helpdesk, .setupOtp, .updateAttributes,
    .peopleSearch, .emailServer]
  text
    | .application => "application"
    | .security => "security"
    | .database => "database"
    | .token => "token"
    | .storage => "storage"
    | .email => "email"
    | .webServices => "webservices"
    | .events => "events"
    | .peopleSearchSwitches => "people_search_settings"
    | .ldapProfile => "ldap_profile"
    | .passwordPolicy => "password_policy"
    | .challengePolicy => "challenge_policy"
    | .changePassword => "change_password"
    | .forgottenPassword => "forgotten_password"
    | .activateUser => "activate_user"
    | .newUser => "new_user"
    | .helpdesk => "helpdesk"
    | .setupOtp => "setup_otp"
    | .updateAttributes => "update_attributes"
    | .peopleSearch => "people_search"
    | .emailServer => "email_server"

instance : Worded Category := {}

/-- Whether the settings of a category are stored once per named profile. -/
def Category.hasProfiles : Category → Bool
  | .application | .security | .database | .token | .storage | .email | .webServices | .events
  | .peopleSearchSwitches => false
  | _ => true

end TenantSettings

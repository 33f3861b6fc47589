import TenantSettings.Setting.Basic

/-!
# The schema

Every setting the application knows, by the part of the application it belongs to, and the look-up
of a setting by its key.

* `mem_all_of_byKey?`: a look-up finds a setting of the schema with the key asked for.
-/

namespace TenantSettings.Schema

/-! ### Application -/

/-- The address of the site itself. -/
def siteAddress : Setting := ⟨"pwm.selfURL", .text, .application, ""⟩

/-- Seconds after which an idle session ends. -/
def idleTimeoutSeconds : Setting := ⟨"idleTimeoutSeconds", .number, .application, "600"⟩

/-- Whether errors are shown in detail. -/
def displayShowDetailedErrors : Setting :=
  ⟨"display.showDetailedErrors", .flag, .application, "true"⟩

/-- The title of the application. -/
def applicationTitle : Setting := ⟨"display.title", .localizedText, .application, ""⟩

/-- The locales that the application offers. -/
def knownLocales : Setting := ⟨"knownLocales", .texts, .application, "en"⟩

/-- Who may administrate the application. -/
def administrators : Setting := ⟨"pwmAdmin.queryMatch", .permissions, .application, ""⟩

/-- Files with resources of the site. -/
def resourceFiles : Setting := ⟨"display.customResourceBundle", .files, .application, ""⟩

/-- What is done after a password change. -/
def passwordChangeActions : Setting := ⟨"external.pwChange.actions", .actions, .application, ""⟩

/-! ### Security key and certificates -/

/-- The string that the instance key is derived from. -/
def securityKey : Setting := ⟨"pwm.securityKey", .password, .security, ""⟩

/-- How server certificates are matched. -/
def certificateValidationMode : Setting :=
  ⟨"security.certificate.validationMode", .choice, .security, "CA_ONLY"⟩

/-- Key and certificates of the web server. -/
def httpsServerCert : Setting := ⟨"https.server.cert", .privateKey, .security, ""⟩

/-- Certificates of the audit log server. -/
def auditSyslogCertificates : Setting :=
  ⟨"audit.syslog.certificates", .certificates, .security, ""⟩

/-! ### Database connection -/

/-- The database driver. -/
def databaseClass : Setting := ⟨"db.classname", .text, .database, ""⟩

/-- The database address. -/
def databaseAddress : Setting := ⟨"db.connectionString", .text, .database, ""⟩

/-- The database user. -/
def databaseUsername : Setting := ⟨"db.username", .text, .database, ""⟩

/-- The password of the database user. -/
def databasePassword : Setting := ⟨"db.password", .password, .database, ""⟩

/-! ### Tokens -/

/-- Where issued tokens are kept. -/
def tokenStorageMethod : Setting := ⟨"token.storageMethod", .choice, .token, "STORE_LOCALDB"⟩

/-! ### Storage of user data -/

/-- Where responses are read from. -/
def responseStorageRead : Setting := ⟨"responses.storageMethod.read", .text, .storage, "LDAP"⟩

/-- Where responses are written to. -/
def responseStorageWrite : Setting := ⟨"responses.storageMethod.write", .text, .storage, "LDAP"⟩

/-- Where one-time secrets are read from. -/
def otpSecretReadPreference : Setting := ⟨"otp.secret.readPreference", .text, .storage, "LDAP"⟩

/-- Where one-time secrets are written to. -/
def otpSecretWritePreference : Setting := ⟨"otp.secret.writePreference", .text, .storage, "LDAP"⟩

/-- The storage methods in use. -/
def storageEnabledMethods : Setting := ⟨"storage.enabledMethods", .choices, .storage, "LDAP"⟩

/-! ### Email templates -/

/-- The message sent after a password change. -/
def emailChangePassword : Setting := ⟨"email.changePassword", .localizedEmail, .email, ""⟩

/-! ### Web services -/

/-- Services that are called. -/
def externalWebServices : Setting := ⟨"external.webservices", .webServices, .webServices, ""⟩

/-- Secrets of callers. -/
def webservicesNamedSecrets : Setting :=
  ⟨"webservices.namedSecrets", .namedSecrets, .webServices, ""⟩

/-! ### Event log -/

/-- The least severity of the local event log. -/
def eventsLocaldbLogLevel : Setting := ⟨"events.localdb.logLevel", .choice, .events, "TRACE"⟩

/-! ### People search for everyone -/

/-- Whether people search is open to everyone. -/
def peopleSearchEnablePublic : Setting :=
  ⟨"peopleSearch.enablePublic", .flag, .peopleSearchSwitches, "false"⟩

/-- The people search profile for everyone. -/
def peopleSearchPublicProfile : Setting :=
  ⟨"peopleSearch.publicProfile", .text, .peopleSearchSwitches, "default"⟩

/-! ### Directory profiles -/

/-- Whether the directory is in use. -/
def ldapProfileEnabled : Setting := ⟨"ldap.profile.enabled", .flag, .ldapProfile, "true"⟩

/-- The name shown for the directory. -/
def ldapProfileDisplayName : Setting :=
  ⟨"ldap.profile.displayName", .localizedText, .ldapProfile, ""⟩

/-- The addresses of the directory servers. -/
def ldapServerAddresses : Setting := ⟨"ldap.serverUrls", .texts, .ldapProfile, ""⟩

/-- The user that the application binds as. -/
def ldapProxyUserDn : Setting := ⟨"ldap.proxy.username", .text, .ldapProfile, ""⟩

/-- The password of that user. -/
def ldapProxyUserPassword : Setting := ⟨"ldap.proxy.password", .password, .ldapProfile, ""⟩

/-- Certificates of the directory servers. -/
def ldapServerCerts : Setting := ⟨"ldap.serverCerts", .certificates, .ldapProfile, ""⟩

/-- Contexts a user may choose from. -/
def ldapLoginContexts : Setting := ⟨"ldap.selectableContexts", .texts, .ldapProfile, ""⟩

/-- The filter that finds a user by name. -/
def ldapUsernameSearchFilter : Setting :=
  ⟨"ldap.usernameSearchFilter", .text, .ldapProfile,
    "(&(objectClass=inetOrgPerson)(cn=%USERNAME%))"⟩

/-- The attribute that identifies an entry. -/
def ldapGuidAttribute : Setting := ⟨"ldap.guidAttribute", .text, .ldapProfile, "entryUUID"⟩

/-! ### Password policies -/

/-- Whom the policy applies to. -/
def passwordPolicyQueryMatch : Setting :=
  ⟨"password.policy.queryMatch", .permissions, .passwordPolicy, ""⟩

/-- The least length. -/
def passwordPolicyMinimumLength : Setting :=
  ⟨"password.policy.minimumLength", .number, .passwordPolicy, "2"⟩

/-- The greatest length, zero for no bound. -/
def passwordPolicyMaximumLength : Setting :=
  ⟨"password.policy.maximumLength", .number, .passwordPolicy, "64"⟩

/-- The least number of capital letters. -/
def passwordPolicyMinimumUppercase : Setting :=
  ⟨"password.policy.minimumUpperCase", .number, .passwordPolicy, "0"⟩

/-- The least number of small letters. -/
def passwordPolicyMinimumLowercase : Setting :=
  ⟨"password.policy.minimumLowerCase", .number, .passwordPolicy, "0"⟩

/-- The least number of digits. -/
def passwordPolicyMinimumNumeric : Setting :=
  ⟨"password.policy.minimumNumeric", .number, .passwordPolicy, "0"⟩

/-- The least number of special characters. -/
def passwordPolicyMinimumSpecial : Setting :=
  ⟨"password.policy.minimumSpecial", .number, .passwordPolicy, "0"⟩

/-- Passwords that are never allowed. -/
def passwordPolicyDisallowedValues : Setting :=
  ⟨"password.policy.disallowedValues", .texts, .passwordPolicy, ""⟩

/-- The message shown when a password is changed. -/
def passwordPolicyChangeMessage : Setting :=
  ⟨"password.policy.changeMessage", .localizedText, .passwordPolicy, ""⟩

/-! ### Challenge policies -/

/-- Questions that have to be answered. -/
def challengeRequiredChallenges : Setting :=
  ⟨"challenge.requiredChallenges", .localizedTexts, .challengePolicy, ""⟩

/-- Questions to choose from. -/
def challengeRandomChallenges : Setting :=
  ⟨"challenge.randomChallenges", .localizedTexts, .challengePolicy, ""⟩

/-- How many of these have to be answered. -/
def challengeMinRandomRequired : Setting :=
  ⟨"challenge.minRandomRequired", .number, .challengePolicy, "0"⟩

/-! ### Changing a password -/

/-- Whom the profile applies to. -/
def changePasswordQueryMatch : Setting :=
  ⟨"changePassword.queryMatch", .permissions, .changePassword, ""⟩

/-- Whether the current password is asked for. -/
def changePasswordRequireCurrent : Setting :=
  ⟨"changePassword.requireCurrent", .flag, .changePassword, "true"⟩

/-- What is done after the change. -/
def changePasswordWriteAttributes : Setting :=
  ⟨"changePassword.writeAttributes", .actions, .changePassword, ""⟩

/-! ### Forgotten passwords -/

/-- Whom the profile applies to. -/
def recoveryQueryMatch : Setting := ⟨"recovery.queryMatch", .permissions, .forgottenPassword, ""⟩

/-- The form that finds a user. -/
def recoverySearchForm : Setting := ⟨"recovery.form", .form, .forgottenPassword, ""⟩

/-- How a user proves who they are. -/
def recoveryVerificationMethods : Setting :=
  ⟨"recovery.verificationMethods", .choices, .forgottenPassword, "CHALLENGE_RESPONSES"⟩

/-- How a token is sent. -/
def recoveryTokenSendMethod : Setting :=
  ⟨"recovery.token.sendMethod", .choice, .forgottenPassword, "EMAILONLY"⟩

/-! ### Activating a user -/

/-- Whom the profile applies to. -/
def activateUserQueryMatch : Setting :=
  ⟨"activateUser.queryMatch", .permissions, .activateUser, ""⟩

/-- The form that a user fills in. -/
def activateUserForm : Setting := ⟨"activateUser.form", .form, .activateUser, ""⟩

/-- What is done after the activation. -/
def activateUserPostWriteAttributes : Setting :=
  ⟨"activateUser.writePostAttributes", .actions, .activateUser, ""⟩

/-! ### New users -/

/-- The form that a new user fills in. -/
def newUserForm : Setting := ⟨"newUser.form", .form, .newUser, ""⟩

/-- The container that new entries are created in. -/
def newUserContainer : Setting := ⟨"newUser.createContext", .text, .newUser, ""⟩

/-- The directory that new entries are created in. -/
def newUserLdapProfile : Setting := ⟨"newUser.ldapProfile", .text, .newUser, ""⟩

/-- What is done after the creation. -/
def newUserWriteAttributes : Setting := ⟨"newUser.writeAttributes", .actions, .newUser, ""⟩

/-! ### Helpdesk -/

/-- Whom the profile applies to. -/
def helpdeskQueryMatch : Setting := ⟨"helpdesk.queryMatch", .permissions, .helpdesk, ""⟩

/-- The form that finds a user. -/
def helpdeskSearchForm : Setting := ⟨"helpdesk.searchForm", .form, .helpdesk, ""⟩

/-- What the helpdesk may do. -/
def helpdeskActions : Setting := ⟨"helpdesk.actions", .actions, .helpdesk, ""⟩

/-! ### One-time passwords -/

/-- Whom the profile applies to. -/
def setupOtpQueryMatch : Setting := ⟨"otp.queryMatch", .permissions, .setupOtp, ""⟩

/-- Whether the setup is forced. -/
def setupOtpForceSetup : Setting := ⟨"otp.forceSetup", .flag, .setupOtp, "false"⟩

/-! ### Updating attributes -/

/-- Whom the profile applies to. -/
def updateAttributesQueryMatch : Setting :=
  ⟨"updateAttributes.queryMatch", .permissions, .updateAttributes, ""⟩

/-- The form that a user fills in. -/
def updateAttributesForm : Setting := ⟨"updateAttributes.form", .form, .updateAttributes, ""⟩

/-- What is done after the update. -/
def updateAttributesWriteAttributes : Setting :=
  ⟨"updateAttributes.writeAttributes", .actions, .updateAttributes, ""⟩

/-! ### People search -/

/-- Whom the profile applies to. -/
def peopleSearchQueryMatch : Setting :=
  ⟨"peopleSearch.queryMatch", .permissions, .peopleSearch, ""⟩

/-- The fields that are searched. -/
def peopleSearchForm : Setting := ⟨"peopleSearch.searchForm", .form, .peopleSearch, ""⟩

/-- The fields that are shown. -/
def peopleSearchResultForm : Setting := ⟨"peopleSearch.resultForm", .form, .peopleSearch, ""⟩

/-- The greatest number of results. -/
def peopleSearchLimit : Setting := ⟨"peopleSearch.result.limit", .number, .peopleSearch, "250"⟩

/-! ### Mail servers -/

/-- The address of the mail server. -/
def emailServerAddress : Setting := ⟨"email.smtp.address", .text, .emailServer, ""⟩

/-- The number that the mail server listens on. -/
def emailServerPort : Setting := ⟨"email.smtp.port", .number, .emailServer, "25"⟩

/-- The user of the mail server. -/
def emailServerUsername : Setting := ⟨"email.smtp.username", .text, .emailServer, ""⟩

/-- The password of that user. -/
def emailServerPassword : Setting := ⟨"email.smtp.userpassword", .password, .emailServer, ""⟩

/-- The sender of messages that name none. -/
def emailServerSender : Setting := ⟨"email.default.fromAddress", .text, .emailServer, ""⟩

/-! ### The whole schema -/

/-- Every setting, in schema order. -/
def all : List Setting :=
  [siteAddress, idleTimeoutSeconds, displayShowDetailedErrors, applicationTitle, knownLocales,
    administrators, resourceFiles, passwordChangeActions, securityKey, certificateValidationMode,
    httpsServerCert, auditSyslogCertificates, databaseClass, databaseAddress, databaseUsername,
    databasePassword, tokenStorageMethod, responseStorageRead, responseStorageWrite,
    otpSecretReadPreference, otpSecretWritePreference, storageEnabledMethods, emailChangePassword,
    externalWebServices, webservicesNamedSecrets, eventsLocaldbLogLevel, peopleSearchEnablePublic,
    peopleSearchPublicProfile, ldapProfileEnabled, ldapProfileDisplayName, ldapServerAddresses,
    ldapProxyUserDn, ldapProxyUserPassword, ldapServerCerts, ldapLoginContexts,
    ldapUsernameSearchFilter, ldapGuidAttribute, passwordPolicyQueryMatch,
    passwordPolicyMinimumLength, passwordPolicyMaximumLength, passwordPolicyMinimumUppercase,
    passwordPolicyMinimumLowercase, passwordPolicyMinimumNumeric, passwordPolicyMinimumSpecial,
    passwordPolicyDisallowedValues, passwordPolicyChangeMessage, challengeRequiredChallenges,
    challengeRandomChallenges, challengeMinRandomRequired, changePasswordQueryMatch,
    changePasswordRequireCurrent, changePasswordWriteAttributes, recoveryQueryMatch,
    recoverySearchForm, recoveryVerificationMethods, recoveryTokenSendMethod,
    activateUserQueryMatch, activateUserForm, activateUserPostWriteAttributes, newUserForm,
    newUserContainer, newUserLdapProfile, newUserWriteAttributes, helpdeskQueryMatch,
    helpdeskSearchForm, helpdeskActions, setupOtpQueryMatch, setupOtpForceSetup,
    updateAttributesQueryMatch, updateAttributesForm, updateAttributesWriteAttributes,
    peopleSearchQueryMatch, peopleSearchForm, peopleSearchResultForm, peopleSearchLimit,
    emailServerAddress, emailServerPort, emailServerUsername, emailServerPassword,
    emailServerSender]

/-- The setting with a given key. -/
def byKey? (key : String) : Option Setting := all.find? (·.key == key)

/-- A look-up finds a setting of the schema with the key asked for. -/
theorem mem_all_of_byKey? {key : String} {s : Setting} (h : byKey? key = some s) :
    s ∈ all ∧ s.key = key :=
  ⟨List.mem_of_find?_eq_some h, by simpa using List.find?_some h⟩

end TenantSettings.Schema

import TenantSettings.Reader.Basic

/-!
# Profiles of what users do with their accounts

Changing and recovering a password, activating and creating an account, setting up one-time
passwords and updating attributes.  Each profile names the users it applies to and the forms and
actions of its module.
-/

namespace TenantSettings

/-- How users change their password. -/
structure PasswordChange where
  id : String
  appliesTo : List Permission
  requireCurrent : Bool
  writeActions : List Action
deriving DecidableEq, Repr

/-- The password change profile of a reader. -/
def PasswordChange.read (r : Reader) : Read PasswordChange := do
  return {
    id := r.profileId
    appliesTo := ← r.permissions Schema.changePasswordQueryMatch
    requireCurrent := ← r.flag Schema.changePasswordRequireCurrent
    writeActions := ← r.actions Schema.changePasswordWriteAttributes }

/-- How users who have forgotten their password get back in. -/
structure PasswordRecovery where
  id : String
  appliesTo : List Permission
  searchForm : List FormField
  methods : List RecoveryMethod
  tokenSendMethod : SendMethod
deriving DecidableEq, Repr

/-- The recovery profile of a reader. It needs a way of verification; a send method that no longer
works refuses it, and one that means nothing stands for mail. -/
def PasswordRecovery.read (r : Reader) : Read PasswordRecovery := do
  let methods ← r.read Schema.recoveryVerificationMethods (.someOf RecoveryMethod)
  if methods.isEmpty then r.fault .noVerification
  else
    let stored ← r.read Schema.recoveryTokenSendMethod (.oneOf SendMethod)
    let tokenSendMethod : SendMethod := stored.getD .emailOnly
    Read.ofExcept
      (tokenSendMethod.ensureSupported Schema.recoveryTokenSendMethod.key r.profile)
    return {
      id := r.profileId
      appliesTo := ← r.permissions Schema.recoveryQueryMatch
      searchForm := ← r.form Schema.recoverySearchForm
      methods, tokenSendMethod }

/-- How users activate their account. -/
structure Activation where
  id : String
  appliesTo : List Permission
  form : List FormField
  postWriteActions : List Action
deriving DecidableEq, Repr

/-- The activation profile of a reader. -/
def Activation.read (r : Reader) : Read Activation := do
  return {
    id := r.profileId
    appliesTo := ← r.permissions Schema.activateUserQueryMatch
    form := ← r.form Schema.activateUserForm
    postWriteActions := ← r.actions Schema.activateUserPostWriteAttributes }

/-- How accounts are created: the container they are put into, and the directory, the default one
when none is named. -/
structure Registration where
  id : String
  form : List FormField
  container : String
  directory : String
  writeActions : List Action
deriving DecidableEq, Repr

/-- The registration profile of a reader; accounts need a container to be put into. -/
def Registration.read (r : Reader) : Read Registration := do
  return {
    id := r.profileId
    form := ← r.form Schema.newUserForm
    container := ← r.requiredText Schema.newUserContainer
    directory := ← r.text Schema.newUserLdapProfile
    writeActions := ← r.actions Schema.newUserWriteAttributes }

/-- How users set up one-time passwords. -/
structure OtpSetup where
  id : String
  appliesTo : List Permission
  forced : Bool
deriving DecidableEq, Repr

/-- The one-time password profile of a reader. -/
def OtpSetup.read (r : Reader) : Read OtpSetup := do
  return {
    id := r.profileId
    appliesTo := ← r.permissions Schema.setupOtpQueryMatch
    forced := ← r.flag Schema.setupOtpForceSetup }

/-- How users update their attributes. -/
structure AttributeUpdate where
  id : String
  appliesTo : List Permission
  form : List FormField
  writeActions : List Action
deriving DecidableEq, Repr

/-- The attribute update profile of a reader. -/
def AttributeUpdate.read (r : Reader) : Read AttributeUpdate := do
  return {
    id := r.profileId
    appliesTo := ← r.permissions Schema.updateAttributesQueryMatch
    form := ← r.form Schema.updateAttributesForm
    writeActions := ← r.actions Schema.updateAttributesWriteAttributes }

end TenantSettings

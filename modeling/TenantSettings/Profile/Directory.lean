import TenantSettings.Reader.Basic

/-!
# Directory profiles

How one directory is reached, and who may log in through it.
-/

namespace TenantSettings

/-- The connection to one directory. -/
structure Directory where
  id : String
  enabled : Bool
  displayName : String
  serverAddresses : List String
  proxyUser : String
  proxyPassword : Option Secret
  serverCertificates : List Certificate
  loginContexts : List String
  usernameFilter : String
  guidAttribute : String
deriving DecidableEq, Repr

/-- The directory profile of a reader. Only a directory in use needs a server; one without a name is
called by its id. -/
def Directory.read (r : Reader) : Read Directory := do
  let enabled ← r.flag Schema.ldapProfileEnabled
  let serverAddresses ← r.texts Schema.ldapServerAddresses
  if enabled && serverAddresses.isEmpty then r.fault .noServers
  else
    let name ← r.localizedText Schema.ldapProfileDisplayName .root
    return {
      id := r.profileId
      enabled, serverAddresses
      displayName := if name.isEmpty then r.profileId else name
      proxyUser := ← r.text Schema.ldapProxyUserDn
      proxyPassword := ← r.password Schema.ldapProxyUserPassword
      serverCertificates := ← r.certificates Schema.ldapServerCerts
      loginContexts := ← r.texts Schema.ldapLoginContexts
      usernameFilter := ← r.text Schema.ldapUsernameSearchFilter
      guidAttribute := ← r.text Schema.ldapGuidAttribute }

end TenantSettings

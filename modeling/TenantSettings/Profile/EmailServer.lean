import TenantSettings.Reader.Basic

/-!
# Mail server profiles

The server that mail is sent through.
-/

namespace TenantSettings

/-- A server that mail is sent through. -/
structure EmailServer where
  id : String
  address : String
  portNumber : Nat
  username : String
  password : Option Secret
  sender : String
deriving DecidableEq, Repr

namespace EmailServer

/-- The mail server profile of a reader. It listens on a number of sixteen bits that is not zero,
and its address is not blank. -/
def read (r : Reader) : Read EmailServer := do
  let portNumber ← r.number Schema.emailServerPort
  if portNumber < 1 ∨ portNumber > 65535 then r.fault (.badPortNumber portNumber)
  else
    return {
      id := r.profileId
      address := ← r.requiredText Schema.emailServerAddress
      portNumber := portNumber.toNat
      username := ← r.text Schema.emailServerUsername
      password := ← r.password Schema.emailServerPassword
      sender := ← r.text Schema.emailServerSender }

/-- Whether the server is given a user name and a password. -/
def hasCredentials (s : EmailServer) : Bool := !s.username.isEmpty && s.password.isSome

end EmailServer

end TenantSettings

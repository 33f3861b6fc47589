import TenantSettings.Literal

/-!
# Values of choice settings

The fixed words that choice settings hold: where data and tokens are kept, how certificates are
matched, what is logged, how messages are sent and how a user proves who they are.  They are made of
the names of the values, but for a few that are written as one part.
-/

namespace TenantSettings

/-- Where user data such as responses and one-time secrets is kept. -/
inductive StorageMethod where
  | auto | ldap | db | localDb | nmas
deriving DecidableEq, Repr

instance : Literal StorageMethod where
  all := [.auto, .ldap, .db, .localDb, .nmas]
  text
    | .auto => "AUTO"
    | .ldap => "LDAP"
    | .db => "DB"
    | .localDb => "LOCALDB"
    | .nmas => "NMAS"

instance : Worded StorageMethod where
  word
    | .auto => Worded.capitals "Auto"
    | .ldap => Worded.capitals "Ldap"
    | .db => Worded.capitals "Db"
    | .localDb => "LOCALDB"
    | .nmas => Worded.capitals "Nmas"

/-- Where issued tokens are kept. -/
inductive TokenStorage where
  | localDb | db | crypto | ldap
deriving DecidableEq, Repr

instance : Literal TokenStorage where
  all := [.localDb, .db, .crypto, .ldap]
  text
    | .localDb => "STORE_LOCALDB"
    | .db => "STORE_DB"
    | .crypto => "STORE_CRYPTO"
    | .ldap => "STORE_LDAP"

instance : Worded TokenStorage where
  word
    | .localDb => "STORE_LOCALDB"
    | .db => Worded.capitals "StoreDb"
    | .crypto => Worded.capitals "StoreCrypto"
    | .ldap => Worded.capitals "StoreLdap"

/-- How the certificates of servers are matched. -/
inductive CertificateMatching where
  | chain | caOnly
deriving DecidableEq, Repr

instance : Literal CertificateMatching where
  all := [.chain, .caOnly]
  text
    | .chain => "CERTIFICATE_CHAIN"
    | .caOnly => "CA_ONLY"

instance : Worded CertificateMatching where
  word
    | .chain => Worded.capitals "CertificateChain"
    | .caOnly => Worded.capitals "CaOnly"

/-- The least severity that the local event log keeps. -/
inductive LogLevel where
  | trace | debug | info | warn | error | fatal
deriving DecidableEq, Repr

instance : Literal LogLevel where
  all := [.trace, .debug, .info, .warn, .error, .fatal]
  text
    | .trace => "TRACE"
    | .debug => "DEBUG"
    | .info => "INFO"
    | .warn => "WARN"
    | .error => "ERROR"
    | .fatal => "FATAL"

instance : Worded LogLevel where
  word
    | .trace => Worded.capitals "Trace"
    | .debug => Worded.capitals "Debug"
    | .info => Worded.capitals "Info"
    | .warn => Worded.capitals "Warn"
    | .error => Worded.capitals "Error"
    | .fatal => Worded.capitals "Fatal"

/-- The channel that tokens and notices are sent through. -/
inductive SendMethod where
  | none | emailOnly | smsOnly | choice | both | emailFirst | smsFirst
deriving DecidableEq, Repr

instance : Literal SendMethod where
  all := [.none, .emailOnly, .smsOnly, .choice, .both, .emailFirst, .smsFirst]
  text
    | .none => "NONE"
    | .emailOnly => "EMAILONLY"
    | .smsOnly => "SMSONLY"
    | .choice => "CHOICE_SMS_EMAIL"
    | .both => "BOTH"
    | .emailFirst => "EMAIL_FIRST"
    | .smsFirst => "SMS_FIRST"

instance : Worded SendMethod where
  word
    | .none => Worded.capitals "None"
    | .emailOnly => "EMAILONLY"
    | .smsOnly => "SMSONLY"
    | .choice => "CHOICE_SMS_EMAIL"
    | .both => Worded.capitals "Both"
    | .emailFirst => Worded.capitals "EmailFirst"
    | .smsFirst => Worded.capitals "SmsFirst"

/-- Whether a send method is kept only so that old configurations can still be read. -/
def SendMethod.isDeprecated : SendMethod → Bool
  | .both | .emailFirst | .smsFirst => true
  | _ => false

/-- How a user can prove who they are when a password is recovered. -/
inductive RecoveryMethod where
  | previousAuth | attributes | challengeResponses | token | otp | remoteResponses
deriving DecidableEq, Repr

instance : Literal RecoveryMethod where
  all := [.previousAuth, .attributes, .challengeResponses, .token, .otp, .remoteResponses]
  text
    | .previousAuth => "PREVIOUS_AUTH"
    | .attributes => "ATTRIBUTES"
    | .challengeResponses => "CHALLENGE_RESPONSES"
    | .token => "TOKEN"
    | .otp => "OTP"
    | .remoteResponses => "REMOTE_RESPONSES"

instance : Worded RecoveryMethod where
  word
    | .previousAuth => Worded.capitals "PreviousAuth"
    | .attributes => Worded.capitals "Attributes"
    | .challengeResponses => Worded.capitals "ChallengeResponses"
    | .token => Worded.capitals "Token"
    | .otp => Worded.capitals "Otp"
    | .remoteResponses => Worded.capitals "RemoteResponses"

/-- A collection of display texts that stored configuration can override. -/
inductive Bundle where
  | display | error | message | config | admin
deriving DecidableEq, Repr

instance : Literal Bundle where
  all := [.display, .error, .message, .config, .admin]
  text
    | .display => "Display"
    | .error => "Error"
    | .message => "Message"
    | .config => "Config"
    | .admin => "Admin"

instance : Worded Bundle := {}

end TenantSettings

import TenantSettings.Bytes.Pem
import TenantSettings.Options
import TenantSettings.Setting.Kind
import TenantSettings.Bytes.Utf8
import TenantSettings.Text.Split

/-!
# Errors

Everything that can go wrong when a configuration is read, as causes, and the wording of each. A
cause keeps the bytes or the text that were refused, so that causes differ where the data do; the
wording does not repeat them.

* `ConfigError.isProgrammerError_eq_false_of_code?`: an error with a code never comes from asking
  the wrong way.
-/

namespace TenantSettings

/-- The code of an error that no other call can mend. -/
inductive ErrorCode where
  | invalidConfig | invalidSecurityKey | profileConstruction | noLdapProfile | deprecatedValue
deriving DecidableEq, Repr

instance : Literal ErrorCode where
  all := [.invalidConfig, .invalidSecurityKey, .profileConstruction, .noLdapProfile,
    .deprecatedValue]
  text
    | .invalidConfig => "INVALID_CONFIG"
    | .invalidSecurityKey => "INVALID_SECURITY_KEY"
    | .profileConstruction => "PROFILE_CONSTRUCTION"
    | .noLdapProfile => "NO_LDAP_PROFILE"
    | .deprecatedValue => "DEPRECATED_VALUE"

/-- Why a profile cannot be built. -/
inductive ProfileFault where
  | noServers
  | missing (key : String)
  | negative (key : String) (value : Int)
  | lengthOrder (minimum maximum : Nat)
  | tooFewRandom (required : Int) (defined : Nat)
  | noVerification
  | badPortNumber (n : Int)
  | unreadable (definition reason : String)
deriving DecidableEq, Repr

/-- The wording of a profile fault. -/
def ProfileFault.message : ProfileFault → String
  | .noServers => "enabled directory profile has no server URLs"
  | .missing key => "required setting '" ++ key ++ "' is not configured"
  | .negative key value =>
    "setting '" ++ key ++ "' must not be negative, found " ++ toString value
  | .lengthOrder minimum maximum =>
    "minimum password length " ++ toString minimum ++ " exceeds maximum " ++ toString maximum
  | .tooFewRandom required defined =>
    "requires " ++ toString required ++ " random challenges but " ++ toString defined
      ++ " are defined"
  | .noVerification => "no usable recovery verification method is configured"
  | .badPortNumber n => "invalid mail server port " ++ toString n
  | .unreadable definition reason => "unable to build " ++ definition ++ " profile: " ++ reason

/-- What is wrong with a value that is put into a store. -/
inductive StoreFault where
  | profiled (key : String) (category : Category)
  | unprofiled (key : String) (category : Category)
  | shape (key : String) (declared found : Shape)
deriving DecidableEq, Repr

/-- The wording of a value that does not have the shape its setting declares. -/
def shapeMessage (key : String) (declared found : Shape) : String :=
  "setting '" ++ key ++ "' has syntax " ++ Literal.text declared ++ " but stored value is "
    ++ Literal.text found

/-- The wording of a store fault. -/
def StoreFault.message : StoreFault → String
  | .profiled key category =>
    "setting '" ++ key ++ "' belongs to profiled category " ++ Literal.text category
  | .unprofiled key category =>
    "setting '" ++ key ++ "' of category " ++ Literal.text category ++ " has no profiles"
  | .shape key declared found => shapeMessage key declared found

/-- Why stored data is unusable. -/
inductive Cause where
  | note (text : String)
  | storeFaults (faults : List StoreFault)
  | noStore
  | zeroKeyLength
  | blankLocale
  | pem (fault : Pem.Fault)
  | certificate (der : List UInt8)
  | fileContent (key filename content : String)
  | keyPem (key : String) (fault : Pem.Fault)
  | keyLabel (key label : String)
  | shortKey (minimum : Nat)
  | profile (id : String) (fault : ProfileFault)
  | noFactory (definition : String)
  | noEnabledDirectory
  | deprecatedMethod (key : String) (scope : Option String) (method : SendMethod)
deriving DecidableEq, Repr

/-- The code that belongs to a cause; a note may be given any. -/
def Cause.code : Cause → ErrorCode
  | .shortKey _ => .invalidSecurityKey
  | .profile _ _ | .noFactory _ => .profileConstruction
  | .noEnabledDirectory => .noLdapProfile
  | .deprecatedMethod _ _ _ => .deprecatedValue
  | _ => .invalidConfig

/-- The wording of a cause. -/
def Cause.message : Cause → String
  | .note text => text
  | .storeFaults faults => Text.joinWith "; " (faults.map StoreFault.message)
  | .noStore => "no settings store configured"
  | .zeroKeyLength => "security_min_key_length must be greater than zero"
  | .blankLocale => "default_locale must not be empty"
  | .pem fault => "invalid PEM data: " ++ fault.message
  | .certificate _ => "invalid X.509 certificate"
  | .fileContent key filename _ =>
    "setting '" ++ key ++ "' file '" ++ filename ++ "' has invalid content"
  | .keyPem key fault => "setting '" ++ key ++ "' holds an invalid private key: " ++ fault.message
  | .keyLabel key label =>
    "setting '" ++ key ++ "' expected a private key PEM block, found '" ++ label ++ "'"
  | .shortKey minimum =>
    "security key must be at least " ++ toString minimum ++ " characters in length"
  | .profile id fault => "profile '" ++ id ++ "': " ++ fault.message
  | .noFactory definition => "no profile factory defined for " ++ definition
  | .noEnabledDirectory => "no enabled directory profile is configured"
  | .deprecatedMethod key scope method =>
    (match scope with
      | some id => key ++ " [" ++ id ++ "]"
      | none => key)
      ++ " setting is using a no longer functional setting value: " ++ Literal.text method

/-- Why a text cannot be encrypted or decrypted. -/
inductive CipherFault where
  | note (text : String)
  | badBase64 (payload : String)
  | tooShort
  | refused
  | notText (fault : Utf8.Fault)
deriving DecidableEq, Repr

/-- The wording of a cipher fault. -/
def CipherFault.message : CipherFault → String
  | .note text => text
  | .badBase64 _ => "Invalid payload base64"
  | .tooShort => "Payload too short"
  | .refused => "Decryption failed: aead::Error"
  | .notText fault => "Invalid UTF-8 in decrypted value: " ++ fault.message

/-- Why a text is no configuration. -/
inductive ParseFault where
  | note (text : String)
  | toml (text : String)
  | properties (file : Option String) (environment : List (String × String))
deriving DecidableEq, Repr

/-- The wording of a parse fault. -/
def ParseFault.message : ParseFault → String
  | .note text => text
  | .toml _ => "TOML parse error"
  | .properties _ _ => "properties load error"

/-- An error of a configuration call. The first three come from asking the wrong way, the others
from the stored data or the outside. -/
inductive ConfigError where
  | profileNeeded (key : String)
  | unknownProfile (category : Category) (id : String)
  | wrongShape (key : String) (declared found : Shape)
  | unrecoverable (code : ErrorCode) (cause : Cause)
  | encryption (fault : CipherFault)
  | io (text : String)
  | parse (fault : ParseFault)
deriving DecidableEq, Repr

namespace ConfigError

/-- The error of a cause, under the code that belongs to it. -/
def ofCause (cause : Cause) : ConfigError := .unrecoverable cause.code cause

/-- The error of a profile that cannot be built. -/
def ofProfile (id : String) (fault : ProfileFault) : ConfigError := ofCause (.profile id fault)

/-- The code of an error, where it has one. -/
def code? : ConfigError → Option ErrorCode
  | .unrecoverable code _ => some code
  | _ => none

/-- Whether an error comes from asking the wrong way. -/
def isProgrammerError : ConfigError → Bool
  | .profileNeeded _ | .unknownProfile _ _ | .wrongShape _ _ _ => true
  | _ => false

/-- The word for the kind of an error. -/
def kind : ConfigError → String
  | .profileNeeded _ => "ProfiledSettingAccess"
  | .unknownProfile _ _ => "UnknownProfile"
  | .wrongShape _ _ _ => "ValueType"
  | .unrecoverable _ _ => "Unrecoverable"
  | .encryption _ => "Encryption"
  | .io _ => "Io"
  | .parse _ => "Parse"

/-- The wording of an error. -/
def message : ConfigError → String
  | .profileNeeded key =>
    "attempt to read setting value for setting '" ++ key ++ "' as non-profiled setting"
  | .unknownProfile category id =>
    "unknown " ++ Literal.text category ++ " profile id specified: '" ++ id ++ "'"
  | .wrongShape key declared found => shapeMessage key declared found
  | .unrecoverable code cause => Literal.text code ++ ": " ++ cause.message
  | .encryption fault => "Encryption error: " ++ fault.message
  | .io text => "IO error: " ++ text
  | .parse fault => "Parse error: " ++ fault.message

/-- An error with a code never comes from asking the wrong way. -/
theorem isProgrammerError_eq_false_of_code? {e : ConfigError} {c : ErrorCode}
    (h : e.code? = some c) : e.isProgrammerError = false := by
  cases e <;> simp_all [code?, isProgrammerError]

end ConfigError

/-- The error of a send method that no longer works, where a setting holds one. -/
def SendMethod.ensureSupported (method : SendMethod) (key : String) (scope : Option String) :
    Except ConfigError Unit :=
  if method.isDeprecated then .error (.ofCause (.deprecatedMethod key scope method)) else .ok ()

end TenantSettings

import TenantSettings.Error
import TenantSettings.Locale
import TenantSettings.Text.Quoted

/-!
# Application properties

Values that tune the application from outside its stored configuration.

* `Properties.validate`: the properties that a configuration may be opened with.
* `Properties.nonDefault`: the properties that differ from their defaults, as texts.
-/

namespace TenantSettings

/-- The application properties. -/
structure Properties where
  minKeyLength : Nat
  ephemeralKeyLength : Nat
  devDebugMode : Bool
  defaultLocale : String
deriving DecidableEq, Repr

namespace Properties

/-- The least length of a generated key. -/
def minEphemeralKeyLength : Nat := 1024

/-- The properties that hold when nothing is said. -/
def default : Properties := ⟨32, minEphemeralKeyLength, false, "en"⟩

instance : Inhabited Properties := ⟨default⟩

/-- The properties that a configuration may be opened with have a positive least key length and a
default locale that is not blank. -/
def validate (p : Properties) : Except ConfigError Unit :=
  if p.minKeyLength = 0 then .error (.ofCause .zeroKeyLength)
  else if Unicode.isBlank p.defaultLocale then .error (.ofCause .blankLocale)
  else .ok ()

/-- The length of a generated key, never below the least one. -/
def keyLength (p : Properties) : Nat := max p.ephemeralKeyLength minEphemeralKeyLength

/-- The default locale. -/
def locale (p : Properties) : Locale := Locale.parse p.defaultLocale

/-- The text of a truth value. -/
def flagText (b : Bool) : String := if b then "true" else "false"

/-- The properties by name, as texts, in alphabetical order of the names. -/
def entries (p : Properties) : List (String × String) :=
  [("default_locale", p.defaultLocale), ("dev_debug_mode", flagText p.devDebugMode),
    ("security_ephemeral_key_length", toString p.ephemeralKeyLength),
    ("security_min_key_length", toString p.minKeyLength)]

/-- The properties that differ from their defaults, by name, as texts. -/
def nonDefault (p : Properties) : List (String × String) :=
  p.entries.filter fun e => default.entries.lookup e.1 != some e.2

/-- A description of the properties. -/
def describe (p : Properties) : String :=
  "AppProperties \x7b security_min_key_length: " ++ toString p.minKeyLength
    ++ ", security_ephemeral_key_length: " ++ toString p.ephemeralKeyLength
    ++ ", dev_debug_mode: " ++ flagText p.devDebugMode
    ++ ", default_locale: " ++ Text.quoted p.defaultLocale ++ " \x7d"

end Properties

end TenantSettings

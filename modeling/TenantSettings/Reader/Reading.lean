import TenantSettings.Options
import TenantSettings.Value.Decode

/-!
# Readings

The ways in which a stored value can be read.  A reading names the type of its answer; a choice can
be read as a value of any type, by what its words stand for there.

* `Reading.oneOf`, `Reading.someOf`: choices read by the words that a type has of its own.
* `Reading.decode`: what a stored value means under a reading.
* `Reading.shapes`: the shapes that a reading takes.
-/

namespace TenantSettings

/-- A way to read a stored value. The readings of choices come with what a word stands for, if for
anything; several choices are a set, so that their values can be compared. -/
inductive Reading where
  | text | flag | number | texts
  | localizedText (locale : Locale)
  | localizedTexts (locale : Locale)
  | choice {α : Type} (ofWord? : String → Option α)
  | choices {α : Type} [DecidableEq α] (ofWord? : String → Option α)
  | form | permissions | actions | webServices | password | namedSecrets | files | certificates
  | privateKey
  | email (locale : Locale)

namespace Reading

/-- A choice among the values of a type, each stored under its own word. -/
abbrev oneOf (α : Type) [Worded α] : Reading := .choice (α := α) Worded.ofWord?

/-- Several choices among the values of a type, each stored under its own word. -/
abbrev someOf (α : Type) [Worded α] [DecidableEq α] : Reading := .choices (α := α) Worded.ofWord?

/-- The type of what a reading yields. -/
abbrev Answer : Reading → Type
  | .text => String
  | .flag => Bool
  | .number => Int64
  | .texts => List String
  | .localizedText _ => String
  | .localizedTexts _ => List String
  | .choice (α := α) _ => Option α
  | choices (α := α) _ => List α
  | .form => List FormField
  | .permissions => List Permission
  | .actions => List Action
  | .webServices => List WebService
  | .password => Option Secret
  | .namedSecrets => OrderedMap String NamedSecret
  | .files => OrderedMap FileInfo FileContent
  | .certificates => List Certificate
  | .privateKey => Option PrivateKey
  | .email _ => Option EmailItem

/-- The shapes that a reading takes: one each, but texts and choices are read alike. -/
def shapes : Reading → List Shape
  | .text | .choice _ => [.text, .choice]
  | .flag => [.flag]
  | .number => [.number]
  | .texts => [.texts]
  | .localizedText _ => [.localizedText]
  | .localizedTexts _ => [.localizedTexts]
  | choices _ => [.choices]
  | .form => [.form]
  | .permissions => [.permissions]
  | .actions => [.actions]
  | .webServices => [.webServices]
  | .password => [.password]
  | .namedSecrets => [.namedSecrets]
  | .files => [.files]
  | .certificates => [.certificates]
  | .privateKey => [.privateKey]
  | .email _ => [.localizedEmail]

/-- A result with no warnings. -/
def quietly {α : Type} (r : Except ConfigError α) : Except ConfigError (α × List Event) :=
  r.map fun a => (a, [])

/-- The message that suits a locale best, where one does. -/
def decodeEmail (s : Setting) (locale : Locale) (v : StoredValue) :
    Except ConfigError (Option EmailItem) := do
  let messages ← s.decodeLocalizedEmail v
  return (Locale.resolve locale messages.keys).bind messages.get?

/-- What a stored value means for a setting under a reading, with the warnings about it. -/
def decode (s : Setting) (v : StoredValue) :
    (r : Reading) → Except ConfigError (r.Answer × List Event)
  | .text => quietly (s.decodeText v)
  | .flag => quietly (s.decodeFlag v)
  | .number => quietly (s.decodeNumber v)
  | .texts => quietly (s.decodeTexts v)
  | .localizedText locale => quietly (s.decodeLocalizedText locale v)
  | .localizedTexts locale => quietly (s.decodeLocalizedTexts locale v)
  | .choice ofWord? => s.decodeChoice ofWord? v
  | choices ofWord? => s.decodeChoices ofWord? v
  | .form => quietly (s.decodeForm v)
  | .permissions => quietly (s.decodePermissions v)
  | .actions => quietly (s.decodeActions v)
  | .webServices => quietly (s.decodeWebServices v)
  | .password => quietly (s.decodePassword v)
  | .namedSecrets => quietly (s.decodeNamedSecrets v)
  | .files => quietly (s.decodeFiles v)
  | .certificates => quietly (s.decodeCertificates v)
  | .privateKey => quietly (s.decodePrivateKey v)
  | .email locale => quietly (decodeEmail s locale v)

end Reading

end TenantSettings

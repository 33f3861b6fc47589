import TenantSettings.Setting.Kind
import TenantSettings.Value.Records

/-!
# Stored values

A value as a settings store holds it, one constructor per shape.  Localized values are keyed by
written locale tags, the empty tag for the default.

* `shape_empty`: the empty value of a shape has that shape.
-/

namespace TenantSettings

/-- A value as a settings store holds it. -/
inductive StoredValue where
  | text (s : String)
  | flag (b : Bool)
  | number (n : Int64)
  | texts (l : List String)
  | localizedText (m : OrderedMap String String)
  | localizedTexts (m : OrderedMap String (List String))
  | choice (word : String)
  | choices (words : List String)
  | form (fields : List FormField)
  | permissions (l : List Permission)
  | actions (l : List Action)
  | webServices (l : List WebService)
  | password (p : Option Secret)
  | namedSecrets (m : OrderedMap String NamedSecret)
  | files (l : List StoredFile)
  | certificates (pems : List String)
  | privateKey (k : Option StoredKey)
  | localizedEmail (m : OrderedMap String EmailItem)
deriving DecidableEq, Repr

namespace StoredValue

/-- The shape of a value. -/
def shape : StoredValue → Shape
  | text _ => .text
  | flag _ => .flag
  | number _ => .number
  | texts _ => .texts
  | localizedText _ => .localizedText
  | localizedTexts _ => .localizedTexts
  | choice _ => .choice
  | choices _ => .choices
  | form _ => .form
  | permissions _ => .permissions
  | actions _ => .actions
  | webServices _ => .webServices
  | password _ => .password
  | namedSecrets _ => .namedSecrets
  | files _ => .files
  | certificates _ => .certificates
  | privateKey _ => .privateKey
  | localizedEmail _ => .localizedEmail

/-- The empty value of a shape. -/
def empty : Shape → StoredValue
  | .text => text ""
  | .flag => flag false
  | .number => number 0
  | .texts => texts []
  | .localizedText => localizedText .empty
  | .localizedTexts => localizedTexts .empty
  | .choice => choice ""
  | .choices => choices []
  | .form => form []
  | .permissions => permissions []
  | .actions => actions []
  | .webServices => webServices []
  | .password => password none
  | .namedSecrets => namedSecrets .empty
  | .files => files []
  | .certificates => certificates []
  | .privateKey => privateKey none
  | .localizedEmail => localizedEmail .empty

/-- The empty value of a shape has that shape. -/
theorem shape_empty (s : Shape) : (empty s).shape = s := by cases s <;> rfl

end StoredValue

end TenantSettings

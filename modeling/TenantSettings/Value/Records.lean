import TenantSettings.Bytes.Sha256
import TenantSettings.Bytes.Hex
import TenantSettings.Literal
import TenantSettings.OrderedMap

/-!
# Records that settings hold

The structured parts of stored values (form fields, permissions, actions, services, secrets, files,
keys, messages), and what files, certificates and keys become once they are decoded.
-/

namespace TenantSettings

/-- A secret text. -/
structure Secret where
  text : String
deriving DecidableEq, Repr

namespace Secret

/-- Whether the secret is the empty text. -/
def isEmpty (s : Secret) : Bool := s.text.isEmpty

/-- The number of characters of a secret. -/
def length (s : Secret) : Nat := s.text.length

/-- A description of a secret that does not show it. -/
def describe (_ : Secret) : String := "PasswordData(<redacted>)"

end Secret

/-- The kind of input that a form field takes. -/
inductive InputKind where
  | text | email | number | password | tel | select | checkbox | hidden
deriving DecidableEq, Repr

instance : Literal InputKind where
  all := [.text, .email, .number, .password, .tel, .select, .checkbox, .hidden]
  text
    | .text => "text"
    | .email => "email"
    | .number => "number"
    | .password => "password"
    | .tel => "tel"
    | .select => "select"
    | .checkbox => "checkbox"
    | .hidden => "hidden"

/-- A field of a form, with a label per written locale tag. -/
structure FormField where
  name : String
  labels : OrderedMap String String
  kind : InputKind
  required : Bool
  readOnly : Bool
  minimumLength : UInt32
  maximumLength : UInt32
  regex : Option String
deriving DecidableEq, Repr

namespace FormField

/-- A field without labels, bounds or conditions. -/
def plain (name : String) (kind : InputKind) : FormField :=
  ⟨name, .empty, kind, false, false, 0, 0, none⟩

/-- A field that has to be filled in. -/
def require (f : FormField) : FormField := { f with required := true }

/-- A field with a label for a locale. -/
def label (f : FormField) (locale text : String) : FormField :=
  { f with labels := f.labels.insert locale text }

end FormField

/-- How a permission selects users. -/
inductive PermissionKind where
  | query | group | user
deriving DecidableEq, Repr

instance : Literal PermissionKind where
  all := [.query, .group, .user]
  text
    | .query => "ldap_query"
    | .group => "ldap_group"
    | .user => "ldap_user"

/-- A rule that selects users, in one directory or in all. -/
structure Permission where
  kind : PermissionKind
  directory : Option String
  query : Option String
  base : Option String
deriving DecidableEq, Repr

/-- The permission of the users that a directory filter finds. -/
def Permission.ofQuery (filter : String) : Permission := ⟨.query, none, some filter, none⟩

/-- One thing that an action does. -/
inductive ActionStep where
  | webService (method url : String) (body : Option String)
  | ldap (target value : String)
deriving DecidableEq, Repr

/-- Things done together after an operation. -/
structure Action where
  name : String
  description : String
  steps : List ActionStep
deriving DecidableEq, Repr

/-- A service that is called, with the certificates it is trusted for. -/
structure WebService where
  name : String
  url : String
  username : Option String
  password : Option Secret
  certificates : List String
deriving DecidableEq, Repr

/-- A secret with the usages it is allowed for. -/
structure NamedSecret where
  password : Secret
  usage : List String
deriving DecidableEq, Repr

/-- What identifies a stored file. -/
structure FileInfo where
  filename : String
  contentType : String
deriving DecidableEq, Repr

/-- A stored file, its content in base64 text. -/
structure StoredFile where
  info : FileInfo
  content : String
deriving DecidableEq, Repr

/-- A stored private key with its certificates, as PEM text. -/
structure StoredKey where
  keyPem : String
  certificatesPem : List String
deriving DecidableEq, Repr

/-- A description of a stored key that does not show it. -/
def StoredKey.describe (k : StoredKey) : String :=
  "StoredPrivateKey \x7b key_pem: \"<redacted>\", certificates: "
    ++ toString k.certificatesPem.length ++ " \x7d"

/-- A message to be sent. -/
structure EmailItem where
  recipient : String
  sender : String
  subject : String
  bodyPlain : String
  bodyHtml : Option String
deriving DecidableEq, Repr

/-! ### Decoded files, certificates and keys -/

/-- The bytes of a decoded file. -/
structure FileContent where
  bytes : List UInt8
deriving DecidableEq, Repr

namespace FileContent

/-- The number of bytes. -/
def size (f : FileContent) : Nat := f.bytes.length

/-- The digest of the bytes in hexadecimal. -/
def sha256 (f : FileContent) : String := Hex.encode (Sha256.digest f.bytes)

/-- A description of a file by its size. -/
def describe (f : FileContent) : String :=
  "FileContent \x7b size: " ++ toString f.size ++ " \x7d"

end FileContent

end TenantSettings

import TenantSettings.Json.Printer
import TenantSettings.Json.Record
import TenantSettings.Value.Basic

/-!
# The stored form of values

Values are stored as JSON: an object with the member `syntax`, which names the shape, and the member
`value`.  Records have all their members, in declaration order, when written; when read, members
with a default may be missing.
-/

namespace TenantSettings

open Json

/-! ### Writing -/

/-- A map as an object, in insertion order. -/
def OrderedMap.toJson {α : Type} (item : α → Json) (m : OrderedMap String α) : Json :=
  Json.record (m.entries.map fun e => (e.1, item e.2))

/-- The stored form of a form field. -/
def FormField.toJson (f : FormField) : Json :=
  Json.record [("name", .text f.name), ("labels", f.labels.toJson Json.text),
    ("form_type", .text (Literal.text f.kind)), ("required", .bool f.required),
    ("read_only", .bool f.readOnly), ("minimum_length", .nat f.minimumLength.toNat),
    ("maximum_length", .nat f.maximumLength.toNat), ("regex", .textOrNull f.regex)]

/-- The stored form of a permission. -/
def Permission.toJson (p : Permission) : Json :=
  Json.record [("permission_type", .text (Literal.text p.kind)),
    ("ldap_profile_id", .textOrNull p.directory), ("ldap_query", .textOrNull p.query),
    ("ldap_base", .textOrNull p.base)]

/-- The stored form of a step of an action, under the name of its kind. -/
def ActionStep.toJson : ActionStep → Json
  | .webService method url body =>
    Json.record [("type", .text "webservice"), ("method", .text method), ("url", .text url),
      ("body", .textOrNull body)]
  | .ldap target value =>
    Json.record [("type", .text "ldap"), ("attribute", .text target), ("value", .text value)]

/-- The stored form of an action. -/
def Action.toJson (a : Action) : Json :=
  Json.record [("name", .text a.name), ("description", .text a.description),
    ("actions", .array (a.steps.map ActionStep.toJson))]

/-- The stored form of a service. -/
def WebService.toJson (w : WebService) : Json :=
  Json.record [("name", .text w.name), ("url", .text w.url), ("username", .textOrNull w.username),
    ("password", .textOrNull (w.password.map Secret.text)), ("certificates", .texts w.certificates)]

/-- The stored form of a named secret. -/
def NamedSecret.toJson (s : NamedSecret) : Json :=
  Json.record [("password", .text s.password.text), ("usage", .texts s.usage)]

/-- The stored form of what identifies a file. -/
def FileInfo.toJson (i : FileInfo) : Json :=
  Json.record [("filename", .text i.filename), ("content_type", .text i.contentType)]

/-- The stored form of a stored file. -/
def StoredFile.toJson (f : StoredFile) : Json :=
  Json.record [("info", f.info.toJson), ("content", .text f.content)]

/-- The stored form of a stored private key. -/
def StoredKey.toJson (k : StoredKey) : Json :=
  Json.record [("key_pem", .text k.keyPem), ("certificates_pem", .texts k.certificatesPem)]

/-- The stored form of a message. -/
def EmailItem.toJson (e : EmailItem) : Json :=
  Json.record [("to", .text e.recipient), ("from", .text e.sender), ("subject", .text e.subject),
    ("body_plain", .text e.bodyPlain), ("body_html", .textOrNull e.bodyHtml)]

namespace StoredValue

/-- The part of the stored form that depends on the shape. -/
def content : StoredValue → Json
  | text s => .text s
  | flag b => .bool b
  | number n => .int n.toInt
  | texts l => .texts l
  | localizedText m => m.toJson Json.text
  | localizedTexts m => m.toJson Json.texts
  | choice word => .text word
  | choices words => .texts words
  | form fields => .array (fields.map FormField.toJson)
  | permissions l => .array (l.map Permission.toJson)
  | actions l => .array (l.map Action.toJson)
  | webServices l => .array (l.map WebService.toJson)
  | password p => .textOrNull (p.map Secret.text)
  | namedSecrets m => m.toJson NamedSecret.toJson
  | files l => .array (l.map StoredFile.toJson)
  | certificates pems => .texts pems
  | privateKey none => .null
  | privateKey (some k) => k.toJson
  | localizedEmail m => m.toJson EmailItem.toJson

/-- The stored form of a value. -/
def toJson (v : StoredValue) : Json :=
  Json.record [("syntax", .text (Literal.text v.shape)), ("value", v.content)]

/-- The stored form of a value as compact text. -/
def render (v : StoredValue) : String := v.toJson.render

end StoredValue

/-! ### Reading -/

/-- How deep arrays and objects may nest in a text whose parts are kept for later. -/
def maxDepth : Nat := 127

/-- A secret from its stored form. -/
def Secret.ofJson? (j : Json) : Option Secret := j.text?.map Secret.mk

/-- A form field from its stored form. -/
def FormField.ofJson? (kept : Bool) (j : Json) : Option FormField := do
  match ← j.fields? ["name", "labels", "form_type", "required", "read_only", "minimum_length",
      "maximum_length", "regex"] with
  | [name, labels, kind, isRequired, readOnly, minimumLength, maximumLength, regex] =>
    return {
      name := ← present text? name
      labels := ← orElse .empty (map? text?) labels
      kind := ← orElse .text (literal? kept) kind
      required := ← orElse false bool? isRequired
      readOnly := ← orElse false bool? readOnly
      minimumLength := ← orElse 0 uint32? minimumLength
      maximumLength := ← orElse 0 uint32? maximumLength
      regex := ← orElse none (optional? text?) regex }
  | _ => none

/-- A permission from its stored form. -/
def Permission.ofJson? (kept : Bool) (j : Json) : Option Permission := do
  match ← j.fields? ["permission_type", "ldap_profile_id", "ldap_query", "ldap_base"] with
  | [kind, directory, query, base] =>
    return {
      kind := ← present (literal? kept) kind
      directory := ← orElse none (optional? text?) directory
      query := ← orElse none (optional? text?) query
      base := ← orElse none (optional? text?) base }
  | _ => none

/-- The place of the word of a tag among the known ones. Where the text was kept for later, a tag
may also be the place itself. -/
def tagIndex? (words : List String) (kept : Bool) : Json → Option Nat
  | .string s => do words.idxOf? (← s)
  | .integer false n => if kept ∧ n < words.length then some n else none
  | _ => none

/-- The tag of a tagged record and the record without it. -/
def splitTag (tag : String) : Json → Option (Json × Json)
  | .object members => do
    let value ← (← uniqueMember tag members)
    return (value, .object (members.filter fun m => m.1 != some tag))
  | .array (value :: rest) => some (value, .array rest)
  | _ => none

/-- A step is kept as a whole until its tag is known, so every part of it must be sound. -/
def ActionStep.ofJson? (kept : Bool) (j : Json) : Option ActionStep := do
  if !(j.storable && j.withinDepth (maxDepth - 4)) then none
  let (tag, rest) ← splitTag "type" j
  match ← tagIndex? ["webservice", "ldap"] kept tag with
  | 0 =>
    match ← rest.fields? ["method", "url", "body"] with
    | [method, url, body] =>
      return .webService (← present text? method) (← present text? url)
        (← orElse none (optional? text?) body)
    | _ => none
  | _ =>
    match ← rest.fields? ["attribute", "value"] with
    | [target, value] => return .ldap (← present text? target) (← present text? value)
    | _ => none

/-- An action from its stored form. -/
def Action.ofJson? (kept : Bool) (j : Json) : Option Action := do
  match ← j.fields? ["name", "description", "actions"] with
  | [name, description, steps] =>
    return {
      name := ← present text? name
      description := ← orElse "" text? description
      steps := ← present (list? (ActionStep.ofJson? kept)) steps }
  | _ => none

/-- A service from its stored form. -/
def WebService.ofJson? (j : Json) : Option WebService := do
  match ← j.fields? ["name", "url", "username", "password", "certificates"] with
  | [name, url, username, password, certificates] =>
    return {
      name := ← present text? name
      url := ← present text? url
      username := ← orElse none (optional? text?) username
      password := ← orElse none (optional? Secret.ofJson?) password
      certificates := ← orElse [] (list? text?) certificates }
  | _ => none

/-- A named secret from its stored form. -/
def NamedSecret.ofJson? (j : Json) : Option NamedSecret := do
  match ← j.fields? ["password", "usage"] with
  | [password, usage] =>
    return {
      password := ← present Secret.ofJson? password
      usage := ← orElse [] (list? text?) usage }
  | _ => none

/-- What identifies a file from its stored form. -/
def FileInfo.ofJson? (j : Json) : Option FileInfo := do
  match ← j.fields? ["filename", "content_type"] with
  | [filename, contentType] =>
    return { filename := ← present text? filename, contentType := ← present text? contentType }
  | _ => none

/-- A stored file from its stored form. -/
def StoredFile.ofJson? (j : Json) : Option StoredFile := do
  match ← j.fields? ["info", "content"] with
  | [info, content] =>
    return { info := ← present FileInfo.ofJson? info, content := ← present text? content }
  | _ => none

/-- A stored private key from its stored form. -/
def StoredKey.ofJson? (j : Json) : Option StoredKey := do
  match ← j.fields? ["key_pem", "certificates_pem"] with
  | [keyPem, certificatesPem] =>
    return {
      keyPem := ← present text? keyPem
      certificatesPem := ← orElse [] (list? text?) certificatesPem }
  | _ => none

/-- A message from its stored form. -/
def EmailItem.ofJson? (j : Json) : Option EmailItem := do
  match ← j.fields? ["to", "from", "subject", "body_plain", "body_html"] with
  | [recipient, sender, subject, bodyPlain, bodyHtml] =>
    return {
      recipient := ← present text? recipient
      sender := ← present text? sender
      subject := ← present text? subject
      bodyPlain := ← present text? bodyPlain
      bodyHtml := ← orElse none (optional? text?) bodyHtml }
  | _ => none

namespace StoredValue

/-- The value of a shape with a given content. -/
def ofContent? (kept : Bool) (j : Json) : Shape → Option StoredValue
  | .text => j.text?.map text
  | .flag => j.bool?.map flag
  | .number => j.int64?.map number
  | .texts => (j.list? text?).map texts
  | .localizedText => (j.map? text?).map localizedText
  | .localizedTexts => (j.map? (list? text?)).map localizedTexts
  | .choice => j.text?.map choice
  | .choices => (j.list? text?).map choices
  | .form => (j.list? (FormField.ofJson? kept)).map form
  | .permissions => (j.list? (Permission.ofJson? kept)).map permissions
  | .actions => (j.list? (Action.ofJson? kept)).map actions
  | .webServices => (j.list? WebService.ofJson?).map webServices
  | .password => (j.optional? Secret.ofJson?).map password
  | .namedSecrets => (j.map? NamedSecret.ofJson?).map namedSecrets
  | .files => (j.list? StoredFile.ofJson?).map files
  | .certificates => (j.list? text?).map certificates
  | .privateKey => (j.optional? StoredKey.ofJson?).map privateKey
  | .localizedEmail => (j.map? EmailItem.ofJson?).map localizedEmail

/-- The value of a shape whose content is missing: only optional contents may be. -/
def ofNothing? : Shape → Option StoredValue
  | .password => some (password none)
  | .privateKey => some (privateKey none)
  | _ => none

/-- The value with a given stored form: an object, or the shape and the content in an array. A
content that comes before the name of its shape is kept for later, so every part of it must be
sound. -/
def ofJson? : Json → Option StoredValue
  | .object members => do
    if !members.all (·.1.isSome) then none
    let shape ← literal? false (← (← uniqueMember "syntax" members))
    match ← uniqueMember "value" members with
    | none => ofNothing? shape
    | some content =>
      let names := members.map (·.1)
      let kept := names.idxOf (some "value") < names.idxOf (some "syntax")
      if kept ∧ !(content.storable && content.withinDepth (maxDepth - 1)) then none
      ofContent? kept content shape
  | .array [.string shape, content] => do ofContent? false content (← Literal.ofText? (← shape))
  | _ => none

end StoredValue

end TenantSettings

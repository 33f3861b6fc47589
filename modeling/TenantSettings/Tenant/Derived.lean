import TenantSettings.Tenant.Basic
import TenantSettings.Value.Json

/-!
# Derived values of a tenant

The key of the instance, the texts that override a bundle key, and the digest of the configuration.
All three are computed once.

* `Tenant.securityKey`: the configured key, or a generated one.
* `Tenant.digest`: the SHA-256 digest over every record that differs from its default.
-/

namespace TenantSettings

/-! ### What the digest covers -/

/-- A map of texts in stored form, null where there is none. -/
def bundleJson : Option (OrderedMap String String) → Json
  | some m => m.toJson Json.text
  | none => .null

namespace ItemKey

/-- The bundle and the key that a record name stands for: its parts around the first dash. -/
def bundleOfId? (id : String) : Option (Bundle × String) := do
  let (bundle, key) ← Text.splitOnce '-' id.toList
  return (← Literal.ofText? (String.ofList bundle), String.ofList key)

/-- The stored form of what a record holds; empty where it names nothing known. -/
def content (k : ItemKey) : Inquiry String :=
  match k.kind with
  | .setting =>
    match k.setting? with
    | some s => Inquiry.ask (.value s k.profile) fun (v : StoredValue) => .done v.render
    | none => .done ""
  | .localeBundle =>
    match bundleOfId? k.id with
    | some (b, key) => Inquiry.ask (.bundle b key) fun m => .done (bundleJson m).render
    | none => .done ""
  | .property => .done ""

/-- What the digest covers of a record: its description, and what it holds. -/
def covered (k : ItemKey) : Inquiry String := do
  return k.describe ++ (← k.content)

end ItemKey

/-- What the digest of a configuration covers: every record that differs from its default. -/
def coveredText : Inquiry String :=
  .ask .modified fun (items : List ItemKey) => do
    return String.join (← items.mapM ItemKey.covered)

namespace Tenant

/-- The digest of the configuration, in hexadecimal, computed anew. -/
def computeDigest : Read String := ExceptT.lift do
  return Hex.encode (Sha256.digest (Utf8.encode (← coveredText)))

/-- The digest of the configuration, in hexadecimal. -/
def digest (_ : Tenant) : Call String :=
  .cached Memory.digest (fun slot m => { m with digest := slot }) (.ofRead computeDigest)

/-! ### Bundle texts -/

/-- The texts of a map by the locales that their tags name, none for an empty map. -/
def localize (m : OrderedMap String String) : Option (OrderedMap Locale String) :=
  if m.isEmpty then none else some (.ofList (m.entries.map fun e => (Locale.parse e.1, e.2)))

/-- The texts that override a key of a bundle, by locale, read anew. -/
def readBundle (b : Bundle) (key : String) : Read (Option (OrderedMap Locale String)) := do
  let stored : Option (OrderedMap String String) ← Read.ask (.bundle b key)
  return stored.bind localize

/-- The texts that override a key of a bundle, by locale. -/
def localizedBundle (_ : Tenant) (b : Bundle) (key : String) :
    Call (Option (OrderedMap Locale String)) :=
  .cachedAt Memory.bundles (fun slots m => { m with bundles := slots }) (ItemKey.bundleId b key)
    (.ofRead (readBundle b key))

/-! ### The security key -/

/-- A key text that was not generated before. -/
def drawKeyText (t : Tenant) : Call String := do
  let m ← get
  set { m with draws := m.draws + 1 }
  return SecurityKey.drawText (t.words m.draws) t.properties.keyLength

/-- The key text that stands in where none is configured, generated once. -/
def keyText (t : Tenant) : Call String :=
  .cached Memory.keyText (fun slot m => { m with keyText := slot }) t.drawKeyText

/-- The key of the instance: the configured one, which must be long enough, or else one that is
generated and lasts as long as the tenant does. -/
def deriveKey (t : Tenant) : Call SecurityKey := do
  let stored ← Call.ofRead (t.plain.password Schema.securityKey)
  match stored.filter (!·.isEmpty) with
  | none =>
    Call.tell ⟨.warn,
      "Security key value is not configured, will generate temp value for use by runtime instance",
      [("domain", t.domain), ("code", Literal.text ErrorCode.invalidSecurityKey)]⟩
    return .ofText (← t.keyText) true
  | some secret =>
    if secret.length < t.properties.minKeyLength then
      Call.fail (.ofCause (.shortKey t.properties.minKeyLength))
    else return .ofText secret.text false

/-- The key of the instance. -/
def securityKey (t : Tenant) : Call SecurityKey :=
  .cached Memory.key (fun slot m => { m with key := slot }) t.deriveKey

end Tenant

end TenantSettings

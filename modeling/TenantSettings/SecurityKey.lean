import TenantSettings.Bytes.Base64
import TenantSettings.Bytes.Hex
import TenantSettings.Bytes.Sha256
import TenantSettings.Cipher.Gcm
import TenantSettings.Error
import TenantSettings.Unicode.Blank

/-!
# Security keys

The key of an instance is the SHA-256 digest of a key text.  A payload is the base64 text of a nonce
and what is encrypted under it.

* `SecurityKey.decrypt`: a payload read back; white space around it counts for nothing.
* `SecurityKey.drawText`: a key text made of random words.
-/

namespace TenantSettings

/-- A key, and what is known of the text it was derived from: its length, and whether it was
generated. -/
structure SecurityKey where
  material : List UInt8
  sourceLength : Nat
  ephemeral : Bool
deriving DecidableEq

namespace SecurityKey

/-- The key of a key text. -/
def ofText (text : String) (ephemeral : Bool) : SecurityKey :=
  ⟨Sha256.digest (Utf8.encode text), text.length, ephemeral⟩

/-- Whether two keys encrypt alike, wherever they come from. -/
def sameMaterial (k l : SecurityKey) : Bool := k.material == l.material

/-- A digest of the key that may be shown. -/
def fingerprint (k : SecurityKey) : String := Hex.encode (Sha256.digest k.material)

/-- A description of a key that does not show it. -/
def describe (k : SecurityKey) : String :=
  "SecurityKey \x7b key: \"<redacted>\", ephemeral: " ++ (if k.ephemeral then "true" else "false")
    ++ " \x7d"

/-- The payload of a text under a nonce. -/
def encrypt (k : SecurityKey) (nonce : List UInt8) (text : String) : String :=
  Base64.encode (nonce ++ Gcm.encrypt k.material nonce (Utf8.encode text))

/-- The text of a payload, or why it has none. -/
def decrypt (k : SecurityKey) (payload : String) : Except ConfigError String :=
  match Base64.decode (Unicode.trim payload) with
  | none => .error (.encryption (.badBase64 (Unicode.trim payload)))
  | some bytes =>
    if bytes.length ≤ Gcm.nonceLength then .error (.encryption .tooShort)
    else
      match Gcm.decrypt k.material (bytes.take Gcm.nonceLength) (bytes.drop Gcm.nonceLength) with
      | none => .error (.encryption .refused)
      | some plain => (Utf8.decode plain).mapError fun fault => .encryption (.notText fault)

/-- The letters and digits that a generated key text is made of. -/
def alphabet : List Char :=
  "ABCDEFGHIJKLMNOPQRSTUVWXYZabcdefghijklmnopqrstuvwxyz0123456789".toList

/-- A key text of a given length, one letter or digit for each random word. -/
def drawText (words : Nat → Nat) (length : Nat) : String :=
  String.ofList ((List.range length).map fun i => alphabet.getD (words i % alphabet.length) 'A')

/-- A generated key text has the length asked for. -/
theorem length_drawText (words : Nat → Nat) (length : Nat) :
    (drawText words length).length = length := by
  simp [drawText]

end SecurityKey

end TenantSettings

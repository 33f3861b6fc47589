import TenantSettings.Bytes.Sha256
import TenantSettings.Certificate.Ber
import TenantSettings.Certificate.Name
import TenantSettings.Certificate.Time

/-!
# Certificates

The summary of an X.509 certificate.  Only its structure is read; nothing is verified, and what
follows the certificate in the same bytes is kept with it but not read.
-/

namespace TenantSettings

/-- The summary of a certificate, with the bytes it was read from. -/
structure Certificate where
  subject : String
  issuer : String
  serial : String
  notBefore : Int
  notAfter : Int
  der : List UInt8
deriving DecidableEq, Repr

namespace Certificate

open Der

/-- The digest of the bytes in hexadecimal. -/
def fingerprint (c : Certificate) : String := Hex.encode (Sha256.digest c.der)

/-- The bytes of a serial number in hexadecimal, joined by colons. -/
def serialText (bytes : List UInt8) : String :=
  Text.joinWith ":" (bytes.map fun b => Hex.encode [b])

/-- What follows an algorithm: an object identifier, and at most one parameter is looked at. -/
def afterAlgorithm (bytes : List UInt8) : Option (List UInt8) := do
  let (content, rest) ← expect tagSequence bytes
  let (_, parameters) ← objectId? content
  if parameters = [] then some rest
  else
    let _ ← Element.next? parameters
    some rest

/-- What follows a bit string. -/
def afterBitString (bytes : List UInt8) : Option (List UInt8) := do
  let (content, rest) ← expectPrimitive tagBitString bytes
  if isBitString content then some rest else none

/-- What follows a public key. -/
def afterPublicKey (bytes : List UInt8) : Option (List UInt8) := do
  let (content, rest) ← expect tagSequence bytes
  let _ ← afterBitString (← afterAlgorithm content)
  some rest

/-- What follows the optional version. -/
def afterVersion (bytes : List UInt8) : Option (List UInt8) := do
  let (e, rest) ← Element.next? bytes
  if e.tag ≠ 0 then some bytes
  else if e.tagClass ≠ contextClass then none
  else
    let (content, _) ← expectPrimitive tagInteger e.content
    if isUInt32 content then some rest else none

/-- What follows an optional unique identifier with the given tag number. -/
def afterUniqueId (number : Nat) (bytes : List UInt8) : Option (List UInt8) :=
  match header? bytes with
  | none => some bytes
  | some (h, _) =>
    if h.tag ≠ number then some bytes
    else if h.tagClass ≠ contextClass then none
    else do
      let (e, rest) ← Element.next? bytes
      if e.content = [] then none else some rest

/-- An extension: an object identifier, an optional mark of being critical, and its content. -/
def nextExtension? (bytes : List UInt8) : Option (Unit × List UInt8) := do
  let (content, rest) ← expect tagSequence bytes
  let (_, after) ← objectId? content
  let after := match expect tagBoolean after with
    | some ([_], others) => others
    | _ => after
  let _ ← expectPrimitive tagOctetString after
  return ((), rest)

/-- Whether what follows the public key and the unique identifiers is sound: nothing, or the
extensions, all of which read, to the very end. The length that is given for all of them together
does not count. -/
def extensionsSound (bytes : List UInt8) : Bool :=
  if bytes = [] then true
  else
    match header? bytes with
    | some ({ tag := 3, extent := .length _, .. }, inner) =>
      match expect tagSequence inner with
      | some (content, []) => (many nextExtension? content.length content).2 = []
      | _ => false
    | _ => false

/-- The bytes of a serial number, and what follows it. The length of the number may be open. -/
def serial? (bytes : List UInt8) : Option (List UInt8 × List UInt8) := do
  let (e, rest) ← Ber.next? bytes
  if e.tag = tagInteger then some (e.content, rest) else none

/-- The certificate at the front of a byte sequence. -/
def ofDer? (der : List UInt8) : Option Certificate := do
  let (whole, _) ← expect tagSequence der
  let (signedPart, afterSigned) ← expect tagSequence whole
  let bytes ← afterVersion signedPart
  let (serial, bytes) ← serial? bytes
  let bytes ← afterAlgorithm bytes
  let (issuer, bytes) ← Name.next? bytes
  let (validity, bytes) ← expect tagSequence bytes
  let (notBefore, afterFirst) ← Time.next? validity
  let (notAfter, _) ← Time.next? afterFirst
  let (subject, bytes) ← Name.next? bytes
  let bytes ← afterPublicKey bytes
  let bytes ← afterUniqueId 1 bytes
  let bytes ← afterUniqueId 2 bytes
  if !extensionsSound bytes then none
  else
    let _ ← afterBitString (← afterAlgorithm afterSigned)
    return {
      subject := Name.text subject
      issuer := Name.text issuer
      serial := serialText serial
      notBefore, notAfter, der }

end Certificate

end TenantSettings

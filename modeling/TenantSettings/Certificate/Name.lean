import TenantSettings.Bytes.Hex
import TenantSettings.Bytes.Utf8
import TenantSettings.Certificate.Der
import TenantSettings.Certificate.ObjectId.Words
import TenantSettings.Text.Split

/-!
# Distinguished names

The subject and the issuer of a certificate: a sequence of sets of attributes, written as
`KEY=value` with a comma between sets and a plus sign within one, without any escaping.
-/

namespace TenantSettings.Name

/-- An attribute of a name: the content of its object identifier, and its value. -/
structure NameAttribute where
  oid : List UInt8
  value : Der.Element
deriving DecidableEq, Repr

/-- The sixteen-bit units of a byte sequence, high byte first; a last single byte is a unit. -/
def units : List UInt8 → List Nat
  | [] => []
  | [b] => [b.toNat]
  | a :: b :: rest => (256 * a.toNat + b.toNat) :: units rest

/-- The text of sixteen-bit units; `none` for half of a surrogate pair on its own. -/
def ofUnits : List Nat → Option (List Char)
  | [] => some []
  | [u] => if 0xD800 ≤ u ∧ u < 0xE000 then none else some [Char.ofNat u]
  | u :: v :: rest =>
    if 0xD800 ≤ u ∧ u < 0xDC00 then
      if 0xDC00 ≤ v ∧ v < 0xE000 then
        (ofUnits rest).map
          (Char.ofNat (0x10000 + (u - 0xD800) * 0x400 + (v - 0xDC00)) :: ·)
      else none
    else if 0xDC00 ≤ u ∧ u < 0xE000 then none
    else (ofUnits (v :: rest)).map (Char.ofNat u :: ·)

/-- The tag numbers of strings whose bytes are read as UTF-8. -/
def utf8Tags : List Nat :=
  [Der.tagNumericString, Der.tagVisibleString, Der.tagPrintableString, Der.tagGeneralString,
    Der.tagObjectDescriptor, Der.tagGraphicString, Der.tagT61String, Der.tagVideotexString,
    Der.tagUtf8String, Der.tagIa5String]

/-- The text of an attribute's value: strings as they read, anything else in hexadecimal digits;
`none` for a string that does not read. -/
def valueText (e : Der.Element) : Option String :=
  if utf8Tags.contains e.tag then (Utf8.decode e.content).toOption
  else if e.tag = Der.tagBmpString then (ofUnits (units e.content)).map String.ofList
  else some (Hex.encodeCapital e.content)

/-- The text of an attribute. -/
def NameAttribute.text (a : NameAttribute) : Option String := do
  return ObjectId.key a.oid ++ "=" ++ (← valueText a.value)

/-- The text of a name; `none` when a string in it does not read. -/
def text? (sets : List (List NameAttribute)) : Option String := do
  let parts ← sets.mapM fun set => do
    return Text.joinWith " + " (← set.mapM NameAttribute.text)
  return Text.joinWith ", " parts

/-- The text of a name, also of one that does not read. -/
def text (sets : List (List NameAttribute)) : String :=
  (text? sets).getD "<X509Error: Invalid X.509 name>"

/-- The attribute at the front of a byte sequence, and what follows it. -/
def nextAttribute? (bytes : List UInt8) : Option (NameAttribute × List UInt8) := do
  let (content, rest) ← Der.expect Der.tagSequence bytes
  let (oid, after) ← Der.objectId? content
  let (value, _) ← Der.Element.next? after
  return ({ oid, value }, rest)

/-- The set of attributes at the front of a byte sequence, and what follows it. A set has at least
one attribute, and ends with the last one that reads. -/
def nextSet? (bytes : List UInt8) : Option (List NameAttribute × List UInt8) := do
  let (content, rest) ← Der.expect Der.tagSet bytes
  match (Der.many nextAttribute? content.length content).1 with
  | [] => none
  | attributes => return (attributes, rest)

/-- The name at the front of a byte sequence, and what follows it. A name ends with the last set
that reads. -/
def next? (bytes : List UInt8) : Option (List (List NameAttribute) × List UInt8) := do
  let (content, rest) ← Der.expect Der.tagSequence bytes
  return ((Der.many nextSet? content.length content).1, rest)

end TenantSettings.Name

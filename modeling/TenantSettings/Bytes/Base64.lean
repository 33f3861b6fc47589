/-!
# Base64 text

The standard alphabet with canonical padding: three bytes are four characters, a short last group
is filled up with `=`, its unused bits are zero, and nothing else is allowed.
-/

namespace TenantSettings.Base64

/-- The character of a six-bit value. -/
def letter (n : Nat) : Char :=
  if n < 26 then Char.ofNat ('A'.toNat + n)
  else if n < 52 then Char.ofNat ('a'.toNat + (n - 26))
  else if n < 62 then Char.ofNat ('0'.toNat + (n - 52))
  else if n = 62 then '+' else '/'

/-- The six-bit value of a character of the alphabet. -/
def value? (c : Char) : Option Nat :=
  if 'A' ≤ c ∧ c ≤ 'Z' then some (c.toNat - 'A'.toNat)
  else if 'a' ≤ c ∧ c ≤ 'z' then some (c.toNat - 'a'.toNat + 26)
  else if '0' ≤ c ∧ c ≤ '9' then some (c.toNat - '0'.toNat + 52)
  else if c = '+' then some 62
  else if c = '/' then some 63
  else none

/-- The characters of a byte sequence, group by group. -/
def encodeChars : List UInt8 → List Char
  | [] => []
  | [a] => [letter (a.toNat / 4), letter (a.toNat % 4 * 16), '=', '=']
  | [a, b] =>
    [letter (a.toNat / 4), letter (a.toNat % 4 * 16 + b.toNat / 16),
      letter (b.toNat % 16 * 4), '=']
  | a :: b :: c :: rest =>
    letter (a.toNat / 4) :: letter (a.toNat % 4 * 16 + b.toNat / 16) ::
      letter (b.toNat % 16 * 4 + c.toNat / 64) :: letter (c.toNat % 64) :: encodeChars rest

/-- The base64 text of a byte sequence. -/
def encode (bytes : List UInt8) : String := String.ofList (encodeChars bytes)

/-- The bytes of a group of characters that ends the text and may be padded. -/
def lastGroup? (c d e f : Char) : Option (List UInt8) := do
  let x ← value? c
  let y ← value? d
  if e = '=' ∧ f = '=' then
    if y % 16 = 0 then some [UInt8.ofNat (x * 4 + y / 16)] else none
  else
    let z ← value? e
    if f = '=' then
      if z % 4 = 0 then
        some [UInt8.ofNat (x * 4 + y / 16), UInt8.ofNat (y % 16 * 16 + z / 4)]
      else none
    else
      let w ← value? f
      some [UInt8.ofNat (x * 4 + y / 16), UInt8.ofNat (y % 16 * 16 + z / 4),
        UInt8.ofNat (z % 4 * 64 + w)]

/-- The bytes of a group of characters that others follow. -/
def fullGroup? (c d e f : Char) : Option (List UInt8) := do
  let x ← value? c
  let y ← value? d
  let z ← value? e
  let w ← value? f
  some [UInt8.ofNat (x * 4 + y / 16), UInt8.ofNat (y % 16 * 16 + z / 4),
    UInt8.ofNat (z % 4 * 64 + w)]

/-- The bytes that a character sequence stands for; `none` where it is not canonical. -/
def decodeChars : List Char → Option (List UInt8)
  | [] => some []
  | [c, d, e, f] => lastGroup? c d e f
  | c :: d :: e :: f :: rest => do
    let group ← fullGroup? c d e f
    let bytes ← decodeChars rest
    return group ++ bytes
  | _ => none

/-- The bytes that a base64 text stands for; `none` where it is not canonical. -/
def decode (s : String) : Option (List UInt8) := decodeChars s.toList

end TenantSettings.Base64

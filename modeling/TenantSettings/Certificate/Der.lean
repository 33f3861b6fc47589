/-!
# Tagged elements

The distinguished encoding of tagged data: an identifier with a tag number, a definite length, and
that many content bytes.

* `header?`: what an element begins with, as both encodings write it.
* `Element.next?`: an element in the distinguished encoding, always of definite length.
-/

namespace TenantSettings.Der

/-- What an element begins with: the class and number of its tag, and whether it is built of
others. -/
structure Identifier where
  tagClass : Nat
  constructed : Bool
  tag : Nat
deriving DecidableEq, Repr

/-- Where the content of an element ends: after a number of bytes, or at a mark of its own. -/
inductive Extent where
  | length (n : Nat)
  | untilMark
deriving DecidableEq, Repr

/-- An element up to its content. -/
structure Header extends Identifier where
  extent : Extent
deriving DecidableEq, Repr

/-- An encoded element: what it begins with, and its content. -/
structure Element extends Identifier where
  content : List UInt8
deriving DecidableEq, Repr

/-- The class of tags whose meaning depends on the context. -/
def contextClass : Nat := 2

/-! ### Tag numbers -/

/-- The tag number of a truth value. -/
def tagBoolean : Nat := 1

/-- The tag number of an integer. -/
def tagInteger : Nat := 2

/-- The tag number of a bit string. -/
def tagBitString : Nat := 3

/-- The tag number of an octet string. -/
def tagOctetString : Nat := 4

/-- The tag number of a description of an object. -/
def tagObjectDescriptor : Nat := 7

/-- The tag number of a text in UTF-8. -/
def tagUtf8String : Nat := 12

/-- The tag number of a sequence. -/
def tagSequence : Nat := 16

/-- The tag number of a set. -/
def tagSet : Nat := 17

/-- The tag number of a text of digits. -/
def tagNumericString : Nat := 18

/-- The tag number of a printable text. -/
def tagPrintableString : Nat := 19

/-- The tag number of a teletex text. -/
def tagT61String : Nat := 20

/-- The tag number of a videotex text. -/
def tagVideotexString : Nat := 21

/-- The tag number of an ASCII text. -/
def tagIa5String : Nat := 22

/-- The tag number of a time with a year of two digits. -/
def tagUtcTime : Nat := 23

/-- The tag number of a time with a year of four digits. -/
def tagGeneralizedTime : Nat := 24

/-- The tag number of a text of graphic characters. -/
def tagGraphicString : Nat := 25

/-- The tag number of a visible text. -/
def tagVisibleString : Nat := 26

/-- The tag number of a general text. -/
def tagGeneralString : Nat := 27

/-- The tag number of a text in UTF-16. -/
def tagBmpString : Nat := 30

/-! ### Elements -/

/-- A tag number in groups of seven bits, at most `budget` of them, and what follows. The number is
kept in 32 bits; higher ones are lost. -/
def longTag (acc : Nat) : Nat → List UInt8 → Option (Nat × List UInt8)
  | 0, _ | _, [] => none
  | budget + 1, b :: rest =>
    let n := (acc * 128 + b.toNat % 128) % UInt32.size
    if b.toNat < 128 then some (n, rest) else longTag n budget rest

/-- The identifier at the front of a byte sequence, and what follows. -/
def identifier? : List UInt8 → Option (Identifier × List UInt8)
  | [] => none
  | b :: rest => do
    let number := b.toNat % 32
    let (tag, rest) ← if number = 31 then longTag 0 5 rest else some (number, rest)
    return ({ tagClass := b.toNat / 64, constructed := b.toNat / 32 % 2 = 1, tag }, rest)

/-- Bytes as a big-endian number. -/
def bigEndian (bytes : List UInt8) : Nat := bytes.foldl (fun n b => 256 * n + b.toNat) 0

/-- The extent at the front of a byte sequence, and what follows. A length is a single byte, or a
number below 2^64 after a byte that counts its bytes. -/
def extent? : List UInt8 → Option (Extent × List UInt8)
  | [] => none
  | b :: rest =>
    if b.toNat < 128 then some (.length b.toNat, rest)
    else
      let count := b.toNat - 128
      let n := bigEndian (rest.take count)
      if count = 0 then some (.untilMark, rest)
      else if count = 127 ∨ rest.length < count ∨ UInt64.size ≤ n then none
      else some (.length n, rest.drop count)

/-- What an element begins with, at the front of a byte sequence, and what follows. -/
def header? (bytes : List UInt8) : Option (Header × List UInt8) := do
  let (identifier, rest) ← identifier? bytes
  let (extent, rest) ← extent? rest
  return ({ identifier with extent }, rest)

/-- The element at the front of a byte sequence, and what follows. -/
def Element.next? (bytes : List UInt8) : Option (Element × List UInt8) :=
  match header? bytes with
  | some ({ extent := .length n, toIdentifier }, rest) =>
    if rest.length < n then none
    else some ({ toIdentifier with content := rest.take n }, rest.drop n)
  | _ => none

/-- The content of an element with a given tag number, and what follows it. -/
def expect (tag : Nat) (bytes : List UInt8) : Option (List UInt8 × List UInt8) := do
  let (e, rest) ← Element.next? bytes
  if e.tag = tag then some (e.content, rest) else none

/-- The content of a primitive element with a given tag number, and what follows it. -/
def expectPrimitive (tag : Nat) (bytes : List UInt8) : Option (List UInt8 × List UInt8) := do
  let (e, rest) ← Element.next? bytes
  if e.tag = tag ∧ !e.constructed then some (e.content, rest) else none

/-- The content of an object identifier, and what follows it. Its place says that it is one, so the
tag is not looked at, but it is primitive. -/
def objectId? (bytes : List UInt8) : Option (List UInt8 × List UInt8) := do
  let (e, rest) ← Element.next? bytes
  if e.constructed then none else some (e.content, rest)

/-- As many results of `item` as can be taken off the front of a byte sequence, and what follows
them; `fuel` bounds their number. -/
def many {α : Type} (item : List UInt8 → Option (α × List UInt8)) :
    Nat → List UInt8 → List α × List UInt8
  | 0, bytes => ([], bytes)
  | fuel + 1, bytes =>
    match item bytes with
    | none => ([], bytes)
    | some (a, rest) =>
      let (others, rest) := many item fuel rest
      (a :: others, rest)

/-- Whether the content of a bit string is sound: it names how many bits of the last byte are
unused, and those bits are zero. -/
def isBitString : List UInt8 → Bool
  | [] => false
  | [unused] => unused == 0
  | unused :: rest =>
    unused ≤ 8 && (rest.getLastD 0).toNat % (1 <<< unused.toNat) == 0

/-- Whether content bytes write a non-negative integer below 2^32 in the shortest way. -/
def isUInt32 : List UInt8 → Bool
  | [] => false
  | [b] => b < 0x80
  | a :: b :: rest =>
    if a = 0 then b ≥ 0x80 && rest.length ≤ 3 else a < 0x80 && rest.length ≤ 2

end TenantSettings.Der

import TenantSettings.Bytes.Hex
import TenantSettings.Text.Split

/-!
# Object identifiers

An object identifier is a path of numbers. Its first byte holds the first two of them, and each
later one has its own bytes, seven bits in each, all but the last with the high bit set.

* `ObjectId.ofArcs`: the shortest bytes of a path.
* `ObjectId.text`: the path that some bytes write, as text.
-/

namespace TenantSettings.ObjectId

/-- The bytes of a number that more bytes follow, seven bits in each; none for zero. -/
def higherSeptets (n : Nat) : List UInt8 :=
  if n = 0 then [] else higherSeptets (n / 128) ++ [UInt8.ofNat (128 + n % 128)]
termination_by n
decreasing_by omega

/-- The bytes of a number after the first two. -/
def ofArc (n : Nat) : List UInt8 := higherSeptets (n / 128) ++ [UInt8.ofNat (n % 128)]

/-- The shortest bytes of a path of at least two numbers. -/
def ofArcs : List Nat → List UInt8
  | a :: b :: rest => UInt8.ofNat (40 * a + b) :: rest.flatMap ofArc
  | _ => []

/-- The numbers that the bytes after the first one write, kept in 64 bits; higher ones are lost.
Bytes that end within a number write what they hold of it. -/
def laterArcs (acc : Nat) (pending : Bool) : List UInt8 → List Nat
  | [] => if pending then [acc] else []
  | b :: rest =>
    let n := (acc * 128 + b.toNat % 128) % UInt64.size
    if b.toNat < 128 then n :: laterArcs 0 false rest else laterArcs n true rest

/-- The path that some bytes write. The byte zero alone is one number. -/
def arcs : List UInt8 → List Nat
  | [] => []
  | [b] => if b = 0 then [0] else [b.toNat / 40, b.toNat % 40]
  | b :: rest => b.toNat / 40 :: b.toNat % 40 :: laterArcs 0 false rest

/-- The greatest number of bytes that a number takes among those that have a last byte. -/
def widestArc (width : Nat) : List UInt8 → Nat
  | [] => 0
  | b :: rest =>
    if b.toNat < 128 then max (width + 1) (widestArc 0 rest) else widestArc (width + 1) rest

/-- The text of an object identifier: its numbers with points between them, or its bytes in
hexadecimal when one of the numbers might need more than 64 bits. -/
def text (oid : List UInt8) : String :=
  if 7 * widestArc 0 (oid.drop 1) > 64 then
    Text.joinWith " " (oid.map fun b => Hex.encode [b])
  else Text.joinWith "." ((arcs oid).map toString)

end TenantSettings.ObjectId

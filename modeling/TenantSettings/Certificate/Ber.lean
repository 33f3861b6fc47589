import TenantSettings.Certificate.Der

/-!
# Elements of open length

The basic encoding of tagged data allows what the distinguished one does not: an element that is
built of others may leave its length open and end at a mark, an empty element with the tag number
zero.

* `next?`: the element at the front of a byte sequence, of definite or of open length.
-/

namespace TenantSettings.Ber

open Der

/-- How deep elements of open length may nest, the marks at their ends counted. -/
def maxDepth : Nat := 50

/-- The tag number of the mark that ends an element of open length. -/
def tagMark : Nat := 0

/-- What follows the mark that ends an element of open length. The elements before it are passed
over by `skip`, which says whether it met the mark; `fuel` bounds their number. -/
def afterMark (skip : Header → List UInt8 → Option (Bool × List UInt8)) :
    Nat → List UInt8 → Option (List UInt8)
  | 0, _ => none
  | fuel + 1, bytes => do
    let (h, rest) ← header? bytes
    let (isMark, rest) ← skip h rest
    if isMark then some rest else afterMark skip fuel rest

/-- Whether an element is a mark, and what follows its content. -/
def afterContent : Nat → Header → List UInt8 → Option (Bool × List UInt8)
  | 0, _, _ => none
  | depth + 1, h, bytes =>
    match h.extent with
    | .length n =>
      if n = 0 ∧ h.tag = tagMark then some (true, bytes)
      else if bytes.length < n then none
      else some (false, bytes.drop n)
    | .untilMark =>
      if h.constructed then do
        return (false, ← afterMark (afterContent depth) bytes.length bytes)
      else none

/-- The element at the front of a byte sequence, and what follows. The mark that ends an element of
open length is no part of its content; marks further inside are. -/
def next? (bytes : List UInt8) : Option (Element × List UInt8) := do
  let (h, body) ← header? bytes
  let (_, rest) ← afterContent maxDepth h body
  let taken := body.take (body.length - rest.length)
  let content := match h.extent with
    | .length _ => taken
    | .untilMark => taken.dropLast.dropLast
  return ({ h.toIdentifier with content }, rest)

end TenantSettings.Ber

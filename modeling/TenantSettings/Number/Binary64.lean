import TenantSettings.Number.Integer

/-!
# Double precision numbers

Binary numbers with fifty-three significant bits: reading one from decimal text, rounding it to an
integer, and writing it with the fewest digits that read back.

* `Binary64.ofRatio`: the nearest double of a quotient, a tie going to the even neighbour.
* `Binary64.shortest`: the fewest decimal digits that read back, and the nearest of those.
-/

namespace TenantSettings.Number

/-- A double: not a number, an infinity, or `mantissa * 2 ^ exponent` with a sign. -/
inductive Binary64 where
  | nan
  | infinite (negative : Bool)
  | finite (negative : Bool) (mantissa : Nat) (exponent : Int)
deriving DecidableEq, Repr

namespace Binary64

/-- The least exponent of a double. -/
def minExponent : Int := -1074

/-- The greatest exponent of a double. -/
def maxExponent : Int := 971

/-- The least mantissa of fifty-three bits. -/
def fullMantissa : Nat := 1 <<< 52

/-- A natural number times a power of two as a quotient. -/
def scaled (n : Nat) (e : Int) : Nat × Nat :=
  if 0 ≤ e then (n <<< e.toNat, 1) else (n, 1 <<< (-e).toNat)

/-- A quotient rounded to the nearest natural number, a tie going to the even one. -/
def roundDiv (num den : Nat) : Nat :=
  let q := num / den
  let r := num % den
  if 2 * r < den then q
  else if 2 * r > den then q + 1
  else if q % 2 = 0 then q else q + 1

/-- A natural number rounded to fifty-three significant bits, a tie going to the even neighbour. -/
def roundNat (n : Nat) : Nat :=
  let shift := n.log2 - 52
  roundDiv n (1 <<< shift) <<< shift

/-- The exponent at which a positive quotient has fifty-three bits before the point, or the least
exponent if that is greater. -/
def exponentOf (num den : Nat) : Int :=
  let guess : Int := (num.log2 : Int) - den.log2 - 52
  let whole (e : Int) : Nat :=
    let (a, b) := scaled num (-e)
    a / (den * b)
  let e := if whole guess < fullMantissa then guess - 1 else guess
  max e minExponent

/-- The nearest double of a quotient, a tie going to the even neighbour. -/
def ofRatio (negative : Bool) (num den : Nat) : Binary64 :=
  if num = 0 then .finite negative 0 minExponent
  else
    let e := exponentOf num den
    let (a, b) := scaled num (-e)
    let m := roundDiv a (den * b)
    let (m, e) := if m = 2 * fullMantissa then (fullMantissa, e + 1) else (m, e)
    if e > maxExponent then .infinite negative else .finite negative m e

/-- The nearest double of `mantissa * 10 ^ exponent`. Numbers far outside the range of a double are
settled by their magnitude alone. -/
def ofDecimal (negative : Bool) (mantissa : Nat) (exponent : Int) : Binary64 :=
  if mantissa = 0 ∨ exponent + mantissa.log2 < -1100 then .finite negative 0 minExponent
  else if exponent > 400 then .infinite negative
  else if 0 ≤ exponent then ofRatio negative (mantissa * tenPower exponent.toNat) 1
  else ofRatio negative mantissa (tenPower (-exponent).toNat)

/-! ### Reading -/

/-- The decimal exponent at the end of a number, if there is one; nothing may follow it. -/
def exponentSuffix? : List Char → Option Int
  | [] => some 0
  | c :: rest =>
    if c = 'e' ∨ c = 'E' then
      match rest with
      | '-' :: ds => (natOfDigits? ds).map fun n => -(n : Int)
      | '+' :: ds => (natOfDigits? ds).map fun n => (n : Int)
      | ds => (natOfDigits? ds).map fun n => (n : Int)
    else none

/-- A number without its sign: digits with at most one point among or beside them, and an
exponent. -/
def ofUnsigned? (negative : Bool) (cs : List Char) : Option Binary64 := do
  let whole := cs.takeWhile isDigit
  let rest := cs.dropWhile isDigit
  let (fraction, rest) := match rest with
    | '.' :: more => (more.takeWhile isDigit, more.dropWhile isDigit)
    | more => ([], more)
  if whole = [] ∧ fraction = [] then none
  else
    let e ← exponentSuffix? rest
    return ofDecimal negative (digitsValue (whole ++ fraction)) (e - fraction.length)

/-- A number or one of the words for what is none, in any case. -/
def ofUnsignedText? (negative : Bool) (cs : List Char) : Option Binary64 :=
  let word := String.ofList (cs.map Char.toLower)
  if word = "inf" ∨ word = "infinity" then some (.infinite negative)
  else if word = "nan" then some .nan
  else ofUnsigned? negative cs

/-- The double that a text writes. -/
def ofText? (s : String) : Option Binary64 :=
  match s.toList with
  | '-' :: cs => ofUnsignedText? true cs
  | '+' :: cs => ofUnsignedText? false cs
  | cs => ofUnsignedText? false cs

/-! ### Rounding -/

/-- Whether a double equals zero; what is no number does not. -/
def isZero : Binary64 → Bool
  | .finite _ m _ => m = 0
  | _ => false

/-- The nearest natural number up to `bound`, a half going up; negative numbers and what is no
number go to zero. -/
def toNatUpTo (bound : Nat) : Binary64 → Nat
  | .nan => 0
  | .infinite negative => if negative then 0 else bound
  | .finite negative m e =>
    if negative then 0
    else
      let (a, b) := scaled m e
      min ((2 * a + b) / (2 * b)) bound

/-! ### Writing -/

/-- The number of decimal digits before the point of a positive quotient, negative when zeros
follow the point: the least `k` with `num / den < 10 ^ k`, sought from `k` upwards. -/
def decimalPointFrom (num den : Nat) : Nat → Int → Int
  | 0, k => k
  | fuel + 1, k =>
    let below := if 0 ≤ k then num < den * tenPower k.toNat else num * tenPower (-k).toNat < den
    if below then k else decimalPointFrom num den fuel (k + 1)

/-- The number of decimal digits before the point of a positive double. -/
def decimalPoint (num den : Nat) : Int := decimalPointFrom num den 700 (-330)

/-- The digits of a double on the grid of `count` significant digits, if one of its two neighbours
there reads back: the digits as a number, and the power of ten of the last one. Of two the nearer is
taken, and the upper one in a tie. Distances are
compared as `num / den` with the bounds `low / den` and `high / den` of the numbers that round to
the double. -/
def onGrid (num low high den : Nat) (closed : Bool) (point : Int) (count : Nat) :
    Option (Nat × Int) :=
  let power : Int := point - count
  -- all quantities in units of `10 ^ power / den`
  let up (n : Nat) : Nat := if 0 ≤ power then n else n * tenPower (-power).toNat
  let unit : Nat := if 0 ≤ power then den * tenPower power.toNat else den
  let inside (d : Nat) : Bool :=
    if closed then up low ≤ d * unit && d * unit ≤ up high
    else up low < d * unit && d * unit < up high
  let below := up num / unit
  let above := below + 1
  let nearBelow := 2 * (up num - below * unit) < unit
  match inside below, inside above with
  | true, true => some (if nearBelow then below else above, power)
  | true, false => some (below, power)
  | false, true => some (above, power)
  | false, false => none

/-- Digits and the power of ten of the last one, at most `fuel` zeros at the end taken off. -/
def dropZeros : Nat → Nat × Int → Nat × Int
  | 0, d => d
  | fuel + 1, (digits, power) =>
    if digits ≠ 0 ∧ digits % 10 = 0 then dropZeros fuel (digits / 10, power + 1)
    else (digits, power)

/-- The fewest digits of a positive double that read back, and the power of ten of the last. The
upper neighbour may be a power of ten, which has fewer digits than its grid. -/
def shortest (m : Nat) (e : Int) : Nat × Int :=
  -- in quarters of the last bit, so that both bounds are whole
  let (num, den) := scaled (4 * m) (e - 2)
  let unit := (scaled 1 (e - 2)).1
  let lowGap := if m = fullMantissa ∧ e > minExponent then unit else 2 * unit
  let point := decimalPoint num den
  dropZeros 17 (((List.range 17).findSome? fun n =>
    onGrid num (num - lowGap) (num + 2 * unit) den (m % 2 = 0) point (n + 1)).getD (m, 0))

/-- Digits with a decimal point before the last `places` of them, no point for none. -/
def withPoint (digits : List Char) (places : Nat) : List Char :=
  if places = 0 then digits
  else
    let filled := List.replicate (places + 1 - digits.length) '0' ++ digits
    filled.take (filled.length - places) ++ '.' :: filled.drop (filled.length - places)

/-- The text of a double: the fewest digits that read back, without an exponent. -/
def toText : Binary64 → String
  | .nan => "NaN"
  | .infinite negative => if negative then "-inf" else "inf"
  | .finite negative m e =>
    let sign := if negative then ['-'] else []
    if m = 0 then String.ofList (sign ++ ['0'])
    else
      let (digits, power) := shortest m e
      let ds := Nat.toDigits 10 digits
      String.ofList (sign ++
        if 0 ≤ power then ds ++ List.replicate power.toNat '0' else withPoint ds (-power).toNat)

end Binary64

end TenantSettings.Number

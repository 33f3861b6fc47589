/-!
# Integers from text

A decimal integer is an optional sign and at least one digit, nothing else.
-/

namespace TenantSettings.Number

/-- A power of ten. -/
def tenPower (n : Nat) : Nat := Nat.pow 10 n

/-- Whether a character is a decimal digit. -/
def isDigit (c : Char) : Bool := '0' ≤ c && c ≤ '9'

/-- The number that a sequence of digits writes. -/
def digitsValue (ds : List Char) : Nat :=
  ds.foldl (fun n d => 10 * n + (d.toNat - '0'.toNat)) 0

/-- The number that a whole character sequence writes in digits. -/
def natOfDigits? (cs : List Char) : Option Nat :=
  if cs ≠ [] ∧ cs.all isDigit then some (digitsValue cs) else none

/-- The natural number below `bound` that a text writes, a plus sign allowed. -/
def natBelow? (bound : Nat) (s : String) : Option Nat := do
  let n ← match s.toList with
    | '+' :: ds => natOfDigits? ds
    | ds => natOfDigits? ds
  if n < bound then some n else none

/-- The signed integer of 64 bits that a text writes. -/
def int64? (s : String) : Option Int64 := do
  let n : Int ← match s.toList with
    | '-' :: ds => (natOfDigits? ds).map fun n => -(n : Int)
    | '+' :: ds => (natOfDigits? ds).map fun n => (n : Int)
    | ds => (natOfDigits? ds).map fun n => (n : Int)
  if Int64.minValue.toInt ≤ n ∧ n ≤ Int64.maxValue.toInt then some (Int64.ofInt n) else none

end TenantSettings.Number

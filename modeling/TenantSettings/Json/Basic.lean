import TenantSettings.Number.Binary64

/-!
# JSON values

A JSON text as a tree.  Members keep their order and may repeat, so that a reader of records can
tell the first from the last and refuse a repeated one.

* `Json.storable`: every string of a tree is a text and every number within the range of a double.
* `Json.withinDepth`: a tree nests no deeper than a bound.
-/

namespace TenantSettings

/-- The text that a JSON string stands for; `none` when its escapes leave half of a surrogate
pair, which stands for no character. -/
abbrev JsonText := Option String

/-- A JSON value. A number is an integer, or a mantissa with a power of ten. -/
inductive Json where
  | null
  | bool (b : Bool)
  | integer (negative : Bool) (magnitude : Nat)
  | decimal (negative : Bool) (mantissa : Nat) (exponent : Int)
  | string (s : JsonText)
  | array (items : List Json)
  | object (members : List (JsonText × Json))
deriving Inhabited

namespace Json

/-- The JSON string of a text. -/
def text (s : String) : Json := .string (some s)

/-- The JSON integer of a natural number. -/
def nat (n : Nat) : Json := .integer false n

/-- The JSON integer of an integer. -/
def int (n : Int) : Json := .integer (n < 0) n.natAbs

/-- The JSON text, or null for no text. -/
def textOrNull : Option String → Json
  | some s => text s
  | none => .null

/-- The array of some texts. -/
def texts (l : List String) : Json := .array (l.map text)

/-- The object with the given members. -/
def record (members : List (String × Json)) : Json :=
  .object (members.map fun m => (some m.1, m.2))

/-- The largest power of ten that a double reaches. -/
def maxDecimalExponent : Nat := 308

/-- The least number that is rounded beyond the largest double: halfway from it to 2^1024. -/
def doubleBound : Nat := (1 <<< 1024) - (1 <<< 970)

/-- The leading digits of `mantissa * 10 ^ exponent` that fit 64 bits, and the power of ten of the
last of them. -/
def leadingDigits (mantissa : Nat) (exponent : Int) : Nat × Int :=
  if mantissa < UInt64.size then (mantissa, exponent)
  else leadingDigits (mantissa / 10) (exponent + 1)
termination_by mantissa
decreasing_by
  have : UInt64.size = 18446744073709551616 := rfl
  omega

/-- Whether `mantissa * 10 ^ exponent` stays within the range of a double when it is computed in
doubles: the leading digits, rounded, times the power of ten, rounded. -/
def inDoubleRange (mantissa : Nat) (exponent : Int) : Bool :=
  let (digits, exponent) := leadingDigits mantissa exponent
  if digits = 0 ∨ exponent < 0 then true
  else if exponent.toNat > maxDecimalExponent then false
  else
    Number.Binary64.roundNat digits * Number.Binary64.roundNat (Number.tenPower exponent.toNat)
      < doubleBound

mutual

/-- Whether every string of a value is a text and every number is within the range of a double:
what a reader checks that keeps the value for later. -/
def storable : Json → Bool
  | .null | .bool _ => true
  | .integer _ n => inDoubleRange n 0
  | .decimal _ m e => inDoubleRange m e
  | .string s => s.isSome
  | .array items => storableItems items
  | .object members => storableMembers members

/-- `storable` for every item of an array. -/
def storableItems : List Json → Bool
  | [] => true
  | v :: rest => storable v && storableItems rest

/-- `storable` for every member of an object and its name. -/
def storableMembers : List (JsonText × Json) → Bool
  | [] => true
  | m :: rest => m.1.isSome && storable m.2 && storableMembers rest

end

mutual

/-- Whether arrays and objects nest at most `depth` deep in a value. -/
def withinDepth (depth : Nat) : Json → Bool
  | .array items => match depth with
    | 0 => false
    | d + 1 => itemsWithinDepth d items
  | .object members => match depth with
    | 0 => false
    | d + 1 => membersWithinDepth d members
  | _ => true

/-- `withinDepth` for every item of an array. -/
def itemsWithinDepth (depth : Nat) : List Json → Bool
  | [] => true
  | v :: rest => withinDepth depth v && itemsWithinDepth depth rest

/-- `withinDepth` for every member of an object. -/
def membersWithinDepth (depth : Nat) : List (JsonText × Json) → Bool
  | [] => true
  | m :: rest => withinDepth depth m.2 && membersWithinDepth depth rest

end

/-- The first member of an object with a given name. -/
def member? (name : String) : Json → Option Json
  | .object members => members.lookup (some name)
  | _ => none

end Json

end TenantSettings

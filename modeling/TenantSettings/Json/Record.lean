import TenantSettings.Json.Basic
import TenantSettings.Literal
import TenantSettings.OrderedMap

/-!
# Reading records from JSON

A record is an object, whose members come in any order and at most once each, or an array of its
fields in declaration order.  Members that the record does not know are passed over.
-/

namespace TenantSettings.Json

/-- A text. -/
def text? : Json → Option String
  | .string s => s
  | _ => none

/-- A truth value. -/
def bool? : Json → Option Bool
  | .bool b => some b
  | _ => none

/-- An integer. -/
def int? : Json → Option Int
  | .integer negative n => some (if negative then -(n : Int) else n)
  | _ => none

/-- A signed integer of 64 bits. -/
def int64? (j : Json) : Option Int64 := do
  let n ← j.int?
  if Int64.minValue.toInt ≤ n ∧ n ≤ Int64.maxValue.toInt then some (Int64.ofInt n) else none

/-- An unsigned integer of 32 bits. -/
def uint32? (j : Json) : Option UInt32 := do
  let n ← j.int?
  if 0 ≤ n ∧ n < UInt32.size then some (UInt32.ofNat n.toNat) else none

/-- A list whose items are read one by one. -/
def list? {α : Type} (item : Json → Option α) : Json → Option (List α)
  | .array items => items.mapM item
  | _ => none

/-- A member of a map: its name must be a text. -/
def namedItem? {α : Type} (item : Json → Option α) (m : JsonText × Json) : Option (String × α) := do
  return (← m.1, ← item m.2)

/-- A map in insertion order: a repeated name keeps its first position and its last value. -/
def map? {α : Type} (item : Json → Option α) : Json → Option (OrderedMap String α)
  | .object members => do return .ofList (← members.mapM (namedItem? item))
  | _ => none

/-- An optional part, null when it is absent. -/
def optional? {α : Type} (item : Json → Option α) : Json → Option (Option α)
  | .null => some none
  | j => (item j).map some

/-- A word of a type with literals, also as the only name of an object whose member is null. Where
the value was kept for later, the member may also be an empty object. -/
def literal? {α : Type} [Literal α] (kept : Bool) : Json → Option α
  | .string s => do Literal.ofText? (← s)
  | .object [(name, .null)] => do Literal.ofText? (← name)
  | .object [(name, .object [])] => if kept then do Literal.ofText? (← name) else none
  | _ => none

/-- The only member of a given name: absent, there once, or repeated, which is an error. -/
def uniqueMember (name : String) (members : List (JsonText × Json)) : Option (Option Json) :=
  match members.filter fun m => m.1 == some name with
  | [] => some none
  | [m] => some (some m.2)
  | _ => none

/-- The fields of a record in declaration order, absent ones as `none`. -/
def fields? (names : List String) : Json → Option (List (Option Json))
  | .object members =>
    if members.all (·.1.isSome) then names.mapM fun name => uniqueMember name members
    else none
  | .array items =>
    if items.length ≤ names.length then
      some (items.map some ++ List.replicate (names.length - items.length) none)
    else none
  | _ => none

/-- A field that has to be there. -/
def present {α : Type} (item : Json → Option α) (field : Option Json) : Option α :=
  field.bind item

/-- A field that stands for `default` when it is absent. -/
def orElse {α : Type} (default : α) (item : Json → Option α) : Option Json → Option α
  | none => some default
  | some j => item j

end TenantSettings.Json

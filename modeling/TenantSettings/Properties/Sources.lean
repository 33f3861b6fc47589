import TenantSettings.Properties.Basic
import TenantSettings.Toml.Parser

/-!
# Where properties come from

Properties are read from a TOML text, strictly by type, or loaded from an optional TOML text and the
environment, where values are converted to the type of the property and a variable wins over the
text.

* `Properties.ofToml`: strict reading.
* `Properties.load`: loading with overrides.
-/

namespace TenantSettings.Properties

open Toml Number

/-- The number of values of an unsigned machine word. -/
def wordBound : Nat := UInt64.size

/-- The least signed integer of 128 bits. -/
def leastInteger : Int := -0x80000000000000000000000000000000

/-- The greatest unsigned integer of 128 bits. -/
def greatestInteger : Int := 0xffffffffffffffffffffffffffffffff

/-! ### Strict reading -/

/-- A length: an integer of an unsigned machine word. -/
def exactNat? : Value → Option Nat
  | .integer n => if 0 ≤ n ∧ n < wordBound then some n.toNat else none
  | _ => none

/-- A truth value. -/
def exactBool? : Value → Option Bool
  | .boolean b => some b
  | _ => none

/-- A text. -/
def exactText? : Value → Option String
  | .text s => some s
  | _ => none

/-- The value of a property, its default when it is not given. -/
def field {α : Type} (read : Value → Option α) (default : α) (name : String)
    (members : List (String × Value)) : Option α :=
  match members.lookup name with
  | none => some default
  | some v => read v

/-- The properties that some members give, each read in its own way. -/
def ofMembers (nat : Value → Option Nat) (bool : Value → Option Bool) (text : Value → Option String)
    (members : List (String × Value)) : Option Properties := do
  return {
    minKeyLength := ← field nat default.minKeyLength "security_min_key_length" members
    ephemeralKeyLength :=
      ← field nat default.ephemeralKeyLength "security_ephemeral_key_length" members
    devDebugMode := ← field bool default.devDebugMode "dev_debug_mode" members
    defaultLocale := ← field text default.defaultLocale "default_locale" members }

/-- Properties once they are valid. -/
def validated (p : Properties) : Except ConfigError Properties := do
  p.validate
  return p

/-- The properties of a TOML text. Unknown names are passed over, and every value must have the
type of its property. -/
def ofToml (text : String) : Except ConfigError Properties :=
  match (do
    let members ← Toml.parse .dotted text
    if membersWithin leastInteger greatestInteger members then
      ofMembers exactNat? exactBool? exactText? members
    else none : Option Properties) with
  | some p => p.validated
  | none => .error (.parse (.toml text))

/-! ### Conversion -/

/-- The words that stand for true and false. -/
def wordFlag? (s : String) : Option Bool :=
  let word := Unicode.toLower s
  if word = "true" ∨ word = "on" ∨ word = "yes" then some true
  else if word = "false" ∨ word = "off" ∨ word = "no" then some false
  else none

/-- A length from any scalar: one or zero for a truth value or its word, the nearest integer of a
float. -/
def toNat? : Value → Option Nat
  | .boolean b => some (if b then 1 else 0)
  | .integer n => if 0 ≤ n then some n.toNat else none
  | .float x => some (x.toNatUpTo (wordBound - 1))
  | .text s | .moment s =>
    match wordFlag? s with
    | some b => some (if b then 1 else 0)
    | none => natBelow? wordBound s
  | .array _ | .table _ => none

/-- A truth value from any scalar: a number is true unless it is zero. -/
def toBool? : Value → Option Bool
  | .boolean b => some b
  | .integer n => some (n != 0)
  | .float x => some (!x.isZero)
  | .text s | .moment s =>
    if s = "1" then some true else if s = "0" then some false else wordFlag? s
  | .array _ | .table _ => none

/-- A text from any scalar. -/
def toText? : Value → Option String
  | .boolean b => some (flagText b)
  | .integer n => some (toString n)
  | .float x => some x.toText
  | .text s | .moment s => some s
  | .array _ | .table _ => none

/-! ### The environment -/

/-- How the names of variables that set properties begin, in small letters. -/
def variableStart : String := "domain_config__"

/-- The value that the text of a variable stands for: a truth value, an integer, a float, or the
text itself. -/
def variableValue (s : String) : Value :=
  let word := Unicode.toLower s
  if word = "true" then .boolean true
  else if word = "false" then .boolean false
  else
    match int64? s with
    | some n => .integer n.toInt
    | none =>
      match Binary64.ofText? s with
      | some x => .float x
      | none => .text s

/-- Whether a character may stand in a part of a path. -/
def isPathChar (c : Char) : Bool := c.isAlphanum || c == '_' || c == '-'

/-- What follows an index after its opening bracket: a signed integer of 64 bits without a plus
sign, blanks around it allowed, and the closing bracket. -/
def afterIndex? (cs : List Char) : Option (List Char) :=
  let cs := Toml.skipSpaces cs
  let (sign, cs) := match cs with
    | '-' :: rest => (['-'], rest)
    | rest => ([], rest)
  match Toml.skipSpaces (cs.dropWhile isDigit) with
  | ']' :: rest => (int64? (String.ofList (sign ++ cs.takeWhile isDigit))).map fun _ => rest
  | _ => none

/-- Whether characters continue a path after its first part: parts after points, and indices in
brackets. -/
def isPathRest : Nat → List Char → Bool
  | _, [] => true
  | 0, _ => false
  | fuel + 1, '.' :: cs =>
    !(cs.takeWhile isPathChar).isEmpty && isPathRest fuel (cs.dropWhile isPathChar)
  | fuel + 1, '[' :: cs => (afterIndex? cs).any (isPathRest fuel)
  | _, _ => false

/-- What a name assigns to: the root property, and whether a part inside of it. A name that is no
path is a property by itself. -/
def target (name : String) : String × Bool :=
  let cs := name.toList
  let rest := cs.dropWhile isPathChar
  if (cs.takeWhile isPathChar).isEmpty ∨ rest = [] ∨ !isPathRest cs.length rest then (name, false)
  else (String.ofList (cs.takeWhile isPathChar), true)

/-- Members with a value put under a name. Assigning to a part inside of a property makes it a
compound value. -/
def assignTo (members : OrderedMap String Value) (e : String × Value) :
    OrderedMap String Value :=
  match target e.1 with
  | (root, false) => members.insert root e.2
  | (root, true) => members.insert root (.table [])

/-- The name that a variable assigns to, if it sets a property. -/
def assignedName? (variableName : String) : Option String :=
  let cs := Unicode.toLowerChars variableName.toList
  if variableStart.toList.isPrefixOf cs then
    some (String.ofList (Text.replaceWord ['_', '_'] ['.'] (cs.drop variableStart.length)))
  else none

/-- What the variables of an environment assign, in order; of two for one name the last counts. -/
def assignments (environment : List (String × String)) : List (String × Value) :=
  (OrderedMap.ofList (environment.filterMap fun v => do
    return (← assignedName? v.1, variableValue v.2))).entries

/-- The properties of an optional TOML file with the environment laid over it. The byte order mark
of the file comes before the text, which may begin with one of its own. -/
def load (file : Option String) (environment : List (String × String)) :
    Except ConfigError Properties :=
  match (do
    let members ← match file with
      | none => some []
      | some content => Toml.parse .passed (Toml.withoutMark content)
    if membersWithin Int64.minValue.toInt Int64.maxValue.toInt members then
      let all := (members ++ assignments environment).foldl assignTo .empty
      ofMembers toNat? toBool? toText? all.entries
    else none : Option Properties) with
  | some p => p.validated
  | none => .error (.parse (.properties file environment))

end TenantSettings.Properties

import TenantSettings.Json.Basic

/-!
# Reading JSON text

The grammar of RFC 8259 with nothing added: blanks are space, tab, line feed and carriage return,
a number has no leading zero, a string holds no bare control character.  Minus zero counts as a
decimal, since no integer is written so.
-/

namespace TenantSettings.Json

/-- Whether a character is a JSON blank. -/
def isBlank (c : Char) : Bool := c = ' ' || c = '\t' || c = '\n' || c = '\r'

/-- What follows the blanks at the front. -/
def skipBlanks (cs : List Char) : List Char := cs.dropWhile isBlank

/-- The value of a hexadecimal digit. -/
def hexValue? (c : Char) : Option Nat :=
  if '0' ≤ c ∧ c ≤ '9' then some (c.toNat - '0'.toNat)
  else if 'a' ≤ c ∧ c ≤ 'f' then some (c.toNat - 'a'.toNat + 10)
  else if 'A' ≤ c ∧ c ≤ 'F' then some (c.toNat - 'A'.toNat + 10)
  else none

/-- The value of four hexadecimal digits. -/
def hexFour? (a b c d : Char) : Option Nat := do
  return ((← hexValue? a) * 16 + (← hexValue? b)) * 256 + ((← hexValue? c) * 16 + (← hexValue? d))

/-- The character that a one-letter escape stands for. -/
def shortEscape? (c : Char) : Option Char :=
  if c = '"' then some '"'
  else if c = '\\' then some '\\'
  else if c = '/' then some '/'
  else if c = 'b' then some '\x08'
  else if c = 'f' then some '\x0c'
  else if c = 'n' then some '\n'
  else if c = 'r' then some '\r'
  else if c = 't' then some '\t'
  else none

/-- A piece of a string: a character, or half of a surrogate pair. -/
inductive Piece where
  | char (c : Char)
  | high (n : Nat)
  | low (n : Nat)

/-- The piece of a sixteen-bit escape. -/
def Piece.ofUnit (n : Nat) : Piece :=
  if 0xD800 ≤ n ∧ n < 0xDC00 then .high (n - 0xD800)
  else if 0xDC00 ≤ n ∧ n < 0xE000 then .low (n - 0xDC00)
  else .char (Char.ofNat n)

/-- The characters of some pieces; `none` for half of a pair on its own. -/
def joinPieces : List Piece → Option (List Char)
  | [] => some []
  | .char c :: rest => (joinPieces rest).map (c :: ·)
  | .high h :: .low l :: rest =>
    (joinPieces rest).map (Char.ofNat (0x10000 + h * 0x400 + l) :: ·)
  | _ => none

/-- The pieces of a string up to its closing mark, and what follows it. -/
def pieces : List Char → Option (List Piece × List Char)
  | [] => none
  | '"' :: rest => some ([], rest)
  | '\\' :: 'u' :: a :: b :: c :: d :: rest => do
    let n ← hexFour? a b c d
    let (ps, rest') ← pieces rest
    return (Piece.ofUnit n :: ps, rest')
  | '\\' :: e :: rest => do
    let c ← shortEscape? e
    let (ps, rest') ← pieces rest
    return (.char c :: ps, rest')
  | c :: rest => do
    if c.toNat < 0x20 ∨ c = '\\' then none
    else
      let (ps, rest') ← pieces rest
      return (.char c :: ps, rest')

/-- The body of a string after its opening mark, and what follows the closing one. -/
def stringBody (cs : List Char) : Option (JsonText × List Char) := do
  let (ps, rest) ← pieces cs
  return ((joinPieces ps).map String.ofList, rest)

/-- Whether a character is a decimal digit. -/
def isDigit (c : Char) : Bool := '0' ≤ c && c ≤ '9'

/-- The number that some digits write. -/
def digitsValue (ds : List Char) : Nat :=
  ds.foldl (fun n d => 10 * n + (d.toNat - '0'.toNat)) 0

/-- The fraction digits after a number's whole part: none at all, or a point and at least one. -/
def fractionDigits : List Char → Option (List Char × List Char)
  | '.' :: rest =>
    match rest.takeWhile isDigit with
    | [] => none
    | ds => some (ds, rest.dropWhile isDigit)
  | rest => some ([], rest)

/-- The exponent at the end of a number, if there is one. -/
def exponentPart : List Char → Option (Option Int × List Char)
  | c :: rest =>
    if c = 'e' ∨ c = 'E' then
      let (negative, rest) := match rest with
        | '-' :: r => (true, r)
        | '+' :: r => (false, r)
        | r => (false, r)
      match rest.takeWhile isDigit with
      | [] => none
      | ds =>
        let n : Int := digitsValue ds
        some (some (if negative then -n else n), rest.dropWhile isDigit)
    else some (none, c :: rest)
  | [] => some (none, [])

/-- A number without its sign. -/
def magnitude (negative : Bool) (cs : List Char) : Option (Json × List Char) := do
  let whole := cs.takeWhile isDigit
  if whole = [] ∨ (whole.head? = some '0' ∧ whole.length > 1) then none
  else
    let (fraction, rest) ← fractionDigits (cs.dropWhile isDigit)
    let (exponent, rest) ← exponentPart rest
    let mantissa := digitsValue (whole ++ fraction)
    if fraction = [] ∧ exponent = none ∧ ¬ (negative ∧ mantissa = 0) then
      return (.integer negative mantissa, rest)
    else
      return (.decimal negative mantissa (exponent.getD 0 - fraction.length), rest)

/-- A number. -/
def number : List Char → Option (Json × List Char)
  | '-' :: rest => magnitude true rest
  | rest => magnitude false rest

/-- What follows a fixed word at the front. -/
def expect (word : List Char) (cs : List Char) : Option (List Char) :=
  if word.isPrefixOf cs then some (cs.drop word.length) else none

mutual

/-- The value at the front of a text, and what follows it. -/
def value : Nat → List Char → Option (Json × List Char)
  | 0, _ => none
  | fuel + 1, cs =>
    match skipBlanks cs with
    | '"' :: rest => do
      let (s, rest) ← stringBody rest
      return (.string s, rest)
    | '[' :: rest =>
      match skipBlanks rest with
      | ']' :: rest => some (.array [], rest)
      | _ => do
        let (items, rest) ← items fuel rest
        return (.array items, rest)
    | '{' :: rest =>
      match skipBlanks rest with
      | '}' :: rest => some (.object [], rest)
      | _ => do
        let (members, rest) ← members fuel rest
        return (.object members, rest)
    | 'n' :: rest => (expect ['u', 'l', 'l'] rest).map (Json.null, ·)
    | 't' :: rest => (expect ['r', 'u', 'e'] rest).map (Json.bool true, ·)
    | 'f' :: rest => (expect ['a', 'l', 's', 'e'] rest).map (Json.bool false, ·)
    | rest => number rest

/-- The items of an array up to its closing bracket, and what follows it. -/
def items : Nat → List Char → Option (List Json × List Char)
  | 0, _ => none
  | fuel + 1, cs => do
    let (v, rest) ← value fuel cs
    match skipBlanks rest with
    | ',' :: rest =>
      let (vs, rest) ← items fuel rest
      return (v :: vs, rest)
    | ']' :: rest => return ([v], rest)
    | _ => none

/-- The members of an object up to its closing brace, and what follows it. -/
def members : Nat → List Char → Option (List (JsonText × Json) × List Char)
  | 0, _ => none
  | fuel + 1, cs =>
    match skipBlanks cs with
    | '"' :: rest => do
      let (name, rest) ← stringBody rest
      match skipBlanks rest with
      | ':' :: rest =>
        let (v, rest) ← value fuel rest
        match skipBlanks rest with
        | ',' :: rest =>
          let (ms, rest) ← members fuel rest
          return ((name, v) :: ms, rest)
        | '}' :: rest => return ([(name, v)], rest)
        | _ => none
      | _ => none
    | _ => none

end

/-- The value that a whole text writes, blanks around it allowed. -/
def parseChars (cs : List Char) : Option Json := do
  let (v, rest) ← value (2 * cs.length + 2) cs
  if skipBlanks rest = [] then some v else none

/-- The value that a whole text writes. -/
def parse (s : String) : Option Json := parseChars s.toList

end TenantSettings.Json

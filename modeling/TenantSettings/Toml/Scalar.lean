import TenantSettings.Certificate.Time
import TenantSettings.Toml.Basic

/-!
# Unquoted values

Booleans, integers, floats, dates and times of a TOML document, each a run of characters without
quotes.
-/

namespace TenantSettings.Toml

open Number

/-- Whether a character may stand in an unquoted value. -/
def isBareChar (c : Char) : Bool :=
  c.isAlphanum || c == '_' || c == '-' || c == '+' || c == '.' || c == ':'

/-- Digits with the underscores between them taken out; every underscore has digits on both
sides. -/
def plainDigits? (isDigit : Char → Bool) : List Char → Option (List Char)
  | [] => none
  | [c] => if isDigit c then some [c] else none
  | c :: '_' :: rest =>
    if isDigit c then (plainDigits? isDigit rest).map (c :: ·) else none
  | c :: rest => if isDigit c then (plainDigits? isDigit rest).map (c :: ·) else none

/-- Decimal digits without a needless leading zero. -/
def wholeDigits? (cs : List Char) : Option (List Char) := do
  let ds ← plainDigits? isDigit cs
  if ds.length > 1 ∧ ds.head? = some '0' then none else some ds

/-- The value of digits in a base up to sixteen. -/
def inBase (base : Nat) (ds : List Char) : Nat :=
  ds.foldl (fun n d =>
    base * n + (if isDigit d then d.toNat - '0'.toNat else d.toLower.toNat - 'a'.toNat + 10)) 0

/-- A sign and what follows it. -/
def takeSign : List Char → Bool × List Char
  | '-' :: rest => (true, rest)
  | '+' :: rest => (false, rest)
  | rest => (false, rest)

/-- An integer: decimal with an optional sign, or in another base without one. -/
def integer? : List Char → Option Int
  | '0' :: 'x' :: cs => do
    let isHexDigit (c : Char) : Bool := isDigit c || ('a' ≤ c.toLower && c.toLower ≤ 'f')
    return inBase 16 (← plainDigits? isHexDigit cs)
  | '0' :: 'o' :: cs => do return inBase 8 (← plainDigits? (fun c => '0' ≤ c && c ≤ '7') cs)
  | '0' :: 'b' :: cs => do return inBase 2 (← plainDigits? (fun c => '0' ≤ c && c ≤ '1') cs)
  | cs => do
    let (negative, cs) := takeSign cs
    let n : Int := digitsValue (← wholeDigits? cs)
    return if negative then -n else n

/-- A float: digits with a fraction, an exponent or both, or a word for what is no number. A number
that is too large is refused. -/
def float? (cs : List Char) : Option Binary64 := do
  let (negative, cs) := takeSign cs
  if cs = ['i', 'n', 'f'] then return .infinite negative
  if cs = ['n', 'a', 'n'] then return .nan
  let isPart (c : Char) : Bool := isDigit c || c == '_'
  let whole ← wholeDigits? (cs.takeWhile isPart)
  let rest := cs.dropWhile isPart
  let (fraction, rest) ← match rest with
    | '.' :: more => do
      let ds ← plainDigits? isDigit (more.takeWhile isPart)
      some (ds, more.dropWhile isPart)
    | more => some ([], more)
  let exponent : Int ← match rest with
    | [] => if fraction = [] then none else some 0
    | e :: more =>
      if e = 'e' ∨ e = 'E' then do
        let (negative, more) := takeSign more
        let n : Int := digitsValue (← plainDigits? isDigit more)
        some (if negative then -n else n)
      else none
  match Binary64.ofDecimal negative (digitsValue (whole ++ fraction))
      (exponent - fraction.length) with
  | .infinite _ => none
  | x => some x

/-! ### Dates and times -/

/-- The value of `count` digits at the front, and what follows. -/
def digitsOf (count : Nat) (cs : List Char) : Option (Nat × List Char) := do
  if cs.length < count then none
  else return (← natOfDigits? (cs.take count), cs.drop count)

/-- What follows a given character. -/
def after (c : Char) : List Char → Option (List Char)
  | d :: rest => if d = c then some rest else none
  | [] => none

/-- A date that exists, as written, and what follows it. -/
def date? (cs : List Char) : Option (List Char × List Char) := do
  let (year, rest) ← digitsOf 4 cs
  let (month, rest) ← digitsOf 2 (← after '-' rest)
  let (day, rest) ← digitsOf 2 (← after '-' rest)
  if 1 ≤ month ∧ month ≤ 12 ∧ 1 ≤ day ∧ day ≤ Time.daysInMonth year month then
    return (cs.take 10, rest)
  else none

/-- A fraction of a second as it is written again: nine digits at most, without zeros at the end
but the only one. -/
def fractionText (ds : List Char) : List Char :=
  match ((ds.take 9).reverse.dropWhile (· == '0')).reverse with
  | [] => ['.', '0']
  | kept => '.' :: kept

/-- A time of day that exists, as it is written again, and what follows it. Seconds may be left
out; the sixtieth second is a leap second. -/
def timeOfDay? (cs : List Char) : Option (List Char × List Char) := do
  let (hour, rest) ← digitsOf 2 cs
  let (minute, rest) ← digitsOf 2 (← after ':' rest)
  if hour > 23 ∨ minute > 59 then none
  else
    match rest with
    | ':' :: more =>
      let (second, rest) ← digitsOf 2 more
      if second > 60 then none
      else
        match rest with
        | '.' :: more =>
          let ds := more.takeWhile isDigit
          if ds = [] then none
          else return (cs.take 8 ++ fractionText ds, more.dropWhile isDigit)
        | rest => return (cs.take 8, rest)
    | rest => return (cs.take 5, rest)

/-- The offset of a zone, as it is written again: no offset has the sign of a positive one. Nothing
may follow it. -/
def offset? : List Char → Option (List Char)
  | [] => some []
  | [c] => if c = 'Z' ∨ c = 'z' then some ['Z'] else none
  | sign :: cs => do
    let (hours, rest) ← digitsOf 2 cs
    let (minutes, rest) ← digitsOf 2 (← after ':' rest)
    if (sign = '+' ∨ sign = '-') ∧ hours ≤ 23 ∧ minutes ≤ 59 ∧ rest = [] then
      some ((if hours = 0 ∧ minutes = 0 then '+' else sign) :: cs)
    else none

/-- A date, a time of day, or both with an optional offset, as it is written again. -/
def moment? (cs : List Char) : Option String :=
  match date? cs with
  | some (date, []) => some (String.ofList date)
  | some (date, separator :: rest) =>
    if separator = 'T' ∨ separator = 't' ∨ separator = ' ' then do
      let (time, rest) ← timeOfDay? rest
      return String.ofList (date ++ 'T' :: time ++ (← offset? rest))
    else none
  | none =>
    match timeOfDay? cs with
    | some (time, []) => some (String.ofList time)
    | _ => none

/-- The unquoted value that a run of characters writes. -/
def scalar? (cs : List Char) : Option Value :=
  if cs = ['t', 'r', 'u', 'e'] then some (.boolean true)
  else if cs = ['f', 'a', 'l', 's', 'e'] then some (.boolean false)
  else
    ((integer? cs).map Value.integer).or
      (((float? cs).map Value.float).or ((moment? cs).map Value.moment))

/-- The run of characters of an unquoted value, and what follows it. A date may be parted from its
time by a single space. -/
def bareRun (cs : List Char) : List Char × List Char :=
  let run := cs.takeWhile isBareChar
  let rest := cs.dropWhile isBareChar
  match rest with
  | ' ' :: d :: more =>
    if (date? run).any (·.2.isEmpty) ∧ isDigit d then
      (run ++ ' ' :: (d :: more).takeWhile isBareChar, (d :: more).dropWhile isBareChar)
    else (run, rest)
  | _ => (run, rest)

end TenantSettings.Toml

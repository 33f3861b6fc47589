import TenantSettings.Certificate.Der
import TenantSettings.Number.Integer

/-!
# Points in time

The two notations of a point in time inside a certificate, as seconds since the beginning of 1970.

* UTC time has two digits for the year, optional seconds, and a zone.
* Generalized time has four digits for the year, optional seconds with an optional fraction, and is
  always in universal time.
-/

namespace TenantSettings.Time

/-- Whether a year has a leap day. -/
def isLeap (year : Nat) : Bool := (year % 4 = 0 ∧ year % 100 ≠ 0) ∨ year % 400 = 0

/-- The number of days of a month. -/
def daysInMonth (year month : Nat) : Nat :=
  if month = 2 then (if isLeap year then 29 else 28)
  else if month = 4 ∨ month = 6 ∨ month = 9 ∨ month = 11 then 30
  else 31

/-- The number of days from the beginning of the year 0 to the beginning of a year. -/
def daysBeforeYear (year : Nat) : Nat :=
  365 * year + (year + 3) / 4 - (year + 99) / 100 + (year + 399) / 400

/-- The number of days of a year before a month. -/
def daysBeforeMonth (year month : Nat) : Nat :=
  (List.range (month - 1)).foldl (fun days m => days + daysInMonth year (m + 1)) 0

/-- A date and a time of day in some zone. -/
structure Civil where
  year : Nat
  month : Nat
  day : Nat
  hour : Nat
  minute : Nat
  second : Nat
deriving DecidableEq, Repr

/-- Whether a date exists and its time of day does. -/
def Civil.isValid (c : Civil) : Bool :=
  1 ≤ c.month && c.month ≤ 12 && 1 ≤ c.day && c.day ≤ daysInMonth c.year c.month
    && c.hour ≤ 23 && c.minute ≤ 59 && c.second ≤ 59

/-- Seconds since the beginning of 1970, zone disregarded. -/
def Civil.seconds (c : Civil) : Int :=
  let days : Int := daysBeforeYear c.year + daysBeforeMonth c.year c.month + (c.day - 1 : Nat)
  (days - daysBeforeYear 1970) * 86400 + (c.hour * 3600 + c.minute * 60 + c.second : Nat)

/-- The value of two digits at the front, and what follows. -/
def twoDigits : List Char → Option (Nat × List Char)
  | a :: b :: rest => do return (← Number.natOfDigits? [a, b], rest)
  | _ => none

/-- Month, day, hour and minute at the front, and what follows. -/
def monthToMinute (year : Nat) (cs : List Char) : Option (Civil × List Char) := do
  let (month, cs) ← twoDigits cs
  let (day, cs) ← twoDigits cs
  let (hour, cs) ← twoDigits cs
  let (minute, cs) ← twoDigits cs
  return ({ year, month, day, hour, minute, second := 0 }, cs)

/-- The seconds, if more than one character is left, and what follows. -/
def withSeconds (c : Civil) (cs : List Char) : Option (Civil × List Char) :=
  match cs with
  | [] => none
  | [_] => some (c, cs)
  | _ => do
    let (second, cs) ← twoDigits cs
    return ({ c with second }, cs)

/-- The offset of a zone in seconds. A minus sign applies to the hours, and the minutes follow the
hours' sign. -/
def zone : List Char → Option Int
  | ['Z'] => some 0
  | sign :: cs => do
    let (hours, cs) ← twoDigits cs
    let (minutes, cs) ← twoDigits cs
    if cs ≠ [] ∨ hours > 25 ∨ minutes > 59 then none
    else if sign = '+' ∨ (sign = '-' ∧ hours = 0) then some (hours * 3600 + minutes * 60 : Nat)
    else if sign = '-' then some (-((hours * 3600 + minutes * 60 : Nat) : Int))
    else none
  | [] => none

/-- The point in time of a UTC time: a year from 50 on belongs to the twentieth century. -/
def ofUtc (cs : List Char) : Option Int := do
  let (yy, cs) ← twoDigits cs
  let (c, cs) ← monthToMinute (if yy ≥ 50 then 1900 + yy else 2000 + yy) cs
  let (c, cs) ← withSeconds c cs
  let offset ← zone cs
  if c.isValid then some (c.seconds - offset) else none

/-- What follows a fraction of at most three digits. -/
def skipFraction : List Char → Option (List Char)
  | '.' :: cs =>
    if (cs.takeWhile Number.isDigit).length ≤ 3 then some (cs.dropWhile Number.isDigit) else none
  | cs => some cs

/-- The point in time of a generalized time. -/
def ofGeneralized (cs : List Char) : Option Int := do
  let (high, cs) ← twoDigits cs
  let (low, cs) ← twoDigits cs
  let (c, cs) ← monthToMinute (high * 100 + low) cs
  let (c, cs) ← withSeconds c cs
  let cs ← skipFraction cs
  if cs = ['Z'] ∧ c.isValid then some c.seconds else none

/-- The point in time that an encoded element holds, and what follows it. -/
def next? (bytes : List UInt8) : Option (Int × List UInt8) := do
  let (e, rest) ← Der.Element.next? bytes
  let cs := e.content.map fun b => Char.ofNat b.toNat
  if e.tag = Der.tagUtcTime then return (← ofUtc cs, rest)
  else if e.tag = Der.tagGeneralizedTime then return (← ofGeneralized cs, rest)
  else none

end TenantSettings.Time

import TenantSettings.Json.Basic

/-!
# Compact JSON text

A value written without blanks.  A string escapes the quotation mark, the backslash and the control
characters below U+0020, the common ones by a letter; any other character stands for itself.
-/

namespace TenantSettings.Json

/-- A hexadecimal digit in small letters. -/
def hexDigit (n : Nat) : Char := (Nat.digitChar n)

/-- A character as it stands inside a JSON string. -/
def escapeChar (c : Char) : List Char :=
  if c = '"' then ['\\', '"']
  else if c = '\\' then ['\\', '\\']
  else if c.toNat < 0x20 then
    if c = '\x08' then ['\\', 'b']
    else if c = '\t' then ['\\', 't']
    else if c = '\n' then ['\\', 'n']
    else if c = '\x0c' then ['\\', 'f']
    else if c = '\r' then ['\\', 'r']
    else ['\\', 'u', '0', '0', hexDigit (c.toNat / 16), hexDigit (c.toNat % 16)]
  else [c]

/-- A text as a JSON string, quotation marks included. -/
def stringChars (s : String) : List Char :=
  '"' :: (s.toList.flatMap escapeChar ++ ['"'])

/-- The characters of a natural number. -/
def natChars (n : Nat) : List Char := Nat.toDigits 10 n

/-- A sign where there is one. -/
def signChars (negative : Bool) : List Char := if negative then ['-'] else []

/-- The characters of an exponent. -/
def intChars (n : Int) : List Char := signChars (n < 0) ++ natChars n.natAbs

mutual

/-- The compact text of a value. -/
def chars : Json → List Char
  | .null => ['n', 'u', 'l', 'l']
  | .bool true => ['t', 'r', 'u', 'e']
  | .bool false => ['f', 'a', 'l', 's', 'e']
  | .integer negative n => signChars negative ++ natChars n
  | .decimal negative m e => signChars negative ++ natChars m ++ 'e' :: intChars e
  | .string s => stringChars (s.getD "\uFFFD")
  | .array items => '[' :: itemsChars items
  | .object members => '{' :: membersChars members

/-- The items of an array with their commas and the closing bracket. -/
def itemsChars : List Json → List Char
  | [] => [']']
  | [v] => chars v ++ [']']
  | v :: w :: rest => chars v ++ ',' :: itemsChars (w :: rest)

/-- The members of an object with their commas and the closing brace. -/
def membersChars : List (JsonText × Json) → List Char
  | [] => ['}']
  | [m] => stringChars (m.1.getD "\uFFFD") ++ ':' :: (chars m.2 ++ ['}'])
  | m :: n :: rest =>
    stringChars (m.1.getD "\uFFFD") ++ ':' :: (chars m.2 ++ ',' :: membersChars (n :: rest))

end

/-- The compact text of a value. -/
def render (v : Json) : String := String.ofList (chars v)

end TenantSettings.Json

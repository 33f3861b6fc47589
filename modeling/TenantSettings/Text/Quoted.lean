import TenantSettings.Unicode.Printable

/-!
# Quoted text

A text between quotation marks, as it appears in descriptions of values: the mark itself, the
backslash and the common controls are escaped by a letter, and whatever cannot be shown is given by
its code point in braces.
-/

namespace TenantSettings.Text

/-- A character as it stands between quotation marks. -/
def quotedChar (c : Char) : List Char :=
  if c = '\x00' then ['\\', '0']
  else if c = '\t' then ['\\', 't']
  else if c = '\r' then ['\\', 'r']
  else if c = '\n' then ['\\', 'n']
  else if c = '"' then ['\\', '"']
  else if c = '\\' then ['\\', '\\']
  else if Unicode.isPrintable c then [c]
  else ['\\', 'u', '\x7b'] ++ Nat.toDigits 16 c.toNat ++ ['\x7d']

/-- A text between quotation marks. -/
def quoted (s : String) : String :=
  String.ofList ('"' :: (s.toList.flatMap quotedChar ++ ['"']))

end TenantSettings.Text

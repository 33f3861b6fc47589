import TenantSettings.Unicode.CaseTable

/-!
# Changing the case of a text

Case mapping character by character over all of Unicode, with the one rule that looks at
neighbours: a capital sigma that ends a word becomes the final small sigma.

* `toUpperChars_append`: capitals are made character by character.
-/

namespace TenantSettings.Unicode

/-- The image of a code point under a list of expansions and a list of shifts; a code point in
neither keeps its value. -/
def mapCode (expansions : List (Nat × List Nat)) (shifts : List Shift) (n : Nat) : List Nat :=
  match expansions.lookup n with
  | some image => image
  | none =>
    match shifts.find? (·.span.contains n) with
    | some shift => [(n + shift.distance).toNat]
    | none => [n]

/-- The small form of one character, away from any neighbours. -/
def toLowerChar (c : Char) : List Char :=
  (mapCode lowerExpansions lowerShifts c.toNat).map Char.ofNat

/-- The capital form of one character. -/
def toUpperChar (c : Char) : List Char :=
  (mapCode upperExpansions upperShifts c.toNat).map Char.ofNat

/-- Whether the first character that is not case-ignorable is a cased letter. -/
def meetsCased (cs : List Char) : Bool :=
  match cs.dropWhile (member caseIgnorableSpans) with
  | c :: _ => member casedSpans c
  | [] => false

/-- The small form of a text; `before` holds the characters already passed, the last one first.
A capital sigma with a letter before it and none after it ends a word. -/
def toLowerFrom (before : List Char) : List Char → List Char
  | [] => []
  | c :: rest =>
    (if c = 'Σ' then [if meetsCased before && !meetsCased rest then 'ς' else 'σ']
      else toLowerChar c) ++ toLowerFrom (c :: before) rest

/-- The small form of a text. -/
def toLowerChars (cs : List Char) : List Char := toLowerFrom [] cs

/-- The capital form of a text. -/
def toUpperChars (cs : List Char) : List Char := cs.flatMap toUpperChar

/-- The small form of a text. -/
def toLower (s : String) : String := String.ofList (toLowerChars s.toList)

/-- The capital form of a text. -/
def toUpper (s : String) : String := String.ofList (toUpperChars s.toList)

/-- Capitals are made character by character. -/
theorem toUpperChars_append (cs ds : List Char) :
    toUpperChars (cs ++ ds) = toUpperChars cs ++ toUpperChars ds := by
  simp [toUpperChars]

/-- The small form of an ASCII letter, any other character unchanged. -/
def asciiLower (c : Char) : Char := c.toLower

/-- Whether two texts agree when the case of ASCII letters is disregarded. -/
def eqIgnoreAsciiCase (s t : String) : Bool :=
  s.toList.map asciiLower == t.toList.map asciiLower

end TenantSettings.Unicode

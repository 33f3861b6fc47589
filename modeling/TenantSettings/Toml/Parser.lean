import TenantSettings.Toml.Scalar

/-!
# Reading TOML

The grammar of TOML 1.1 over characters: lines that give a name a value, headers of tables and of
elements of arrays of tables, comments and blank lines.

* `Toml.parse`: the members of the document's root table, or nothing for a text that is none.
-/

namespace TenantSettings.Toml

/-! ### Blanks, comments and line ends -/

/-- Whether a character is a blank within a line. -/
def isSpace (c : Char) : Bool := c == ' ' || c == '\t'

/-- What follows the blanks at the front. -/
def skipSpaces (cs : List Char) : List Char := cs.dropWhile isSpace

/-- Whether a character may stand in a comment or a quoted text of one line: no control character
but the tab. -/
def isTextChar (c : Char) : Bool := c == '\t' || (0x20 ≤ c.toNat && c.toNat ≠ 0x7F)

/-- What follows a line end. -/
def lineEnd? : List Char → Option (List Char)
  | '\n' :: rest => some rest
  | '\r' :: '\n' :: rest => some rest
  | _ => none

/-- What follows an optional comment. -/
def skipComment : List Char → List Char
  | '#' :: rest => rest.dropWhile isTextChar
  | cs => cs

/-- What follows the end of a line: blanks, an optional comment, and a line end or the end of the
text. -/
def endOfLine? (cs : List Char) : Option (List Char) :=
  match skipComment (skipSpaces cs) with
  | [] => some []
  | rest => lineEnd? rest

/-- What follows blanks, comments and line ends; `fuel` bounds the number of lines. -/
def skipLines : Nat → List Char → List Char
  | 0, cs => cs
  | fuel + 1, cs =>
    let rest := skipComment (skipSpaces cs)
    match lineEnd? rest with
    | some rest => skipLines fuel rest
    | none => rest

/-! ### Quoted texts -/

/-- The value of some hexadecimal digits. -/
def hexValue? (cs : List Char) : Option Nat :=
  if cs ≠ [] ∧ cs.all fun c => Number.isDigit c || ('a' ≤ c.toLower && c.toLower ≤ 'f') then
    some (inBase 16 cs)
  else none

/-- The character of a code point, which must be one. -/
def charOf? (n : Nat) : Option Char := if n.isValidChar then some (Char.ofNat n) else none

/-- The character that an escape by code point of `count` digits stands for, and what follows. -/
def codeEscape? (count : Nat) (cs : List Char) : Option (Char × List Char) := do
  if cs.length < count then none
  else return (← charOf? (← hexValue? (cs.take count)), cs.drop count)

/-- The character that an escape stands for, after its backslash, and what follows. -/
def escape? : List Char → Option (Char × List Char)
  | 'b' :: rest => some ('\x08', rest)
  | 't' :: rest => some ('\t', rest)
  | 'n' :: rest => some ('\n', rest)
  | 'f' :: rest => some ('\x0c', rest)
  | 'r' :: rest => some ('\r', rest)
  | 'e' :: rest => some ('\x1b', rest)
  | '"' :: rest => some ('"', rest)
  | '\\' :: rest => some ('\\', rest)
  | 'x' :: rest => codeEscape? 2 rest
  | 'u' :: rest => codeEscape? 4 rest
  | 'U' :: rest => codeEscape? 8 rest
  | _ => none

/-- The rest of a basic text of one line, and what follows its closing quote. -/
def basicText : Nat → List Char → Option (List Char × List Char)
  | 0, _ | _, [] => none
  | fuel + 1, c :: rest =>
    if c = '"' then some ([], rest)
    else if c = '\\' then do
      let (d, rest) ← escape? rest
      let (text, rest) ← basicText fuel rest
      return (d :: text, rest)
    else if isTextChar c then do
      let (text, rest) ← basicText fuel rest
      return (c :: text, rest)
    else none

/-- The rest of a literal text of one line, and what follows its closing quote. -/
def literalText (cs : List Char) : Option (List Char × List Char) :=
  match cs.dropWhile (fun c => c ≠ '\'' && isTextChar c) with
  | '\'' :: rest => some (cs.takeWhile (fun c => c ≠ '\'' && isTextChar c), rest)
  | _ => none

/-- What follows the line end right after an opening of three quotes. -/
def skipFirstLineEnd (cs : List Char) : List Char := (lineEnd? cs).getD cs

/-- What follows the blanks and line ends at the front. -/
def skipEmptyLines : List Char → List Char
  | '\r' :: '\n' :: rest => skipEmptyLines rest
  | c :: rest => if isSpace c || c == '\n' then skipEmptyLines rest else c :: rest
  | [] => []

/-- What follows a backslash at the end of a line: the next character that is neither a blank nor
part of a line end, and all after it. -/
def joinLines? (cs : List Char) : Option (List Char) := do
  return skipEmptyLines (← lineEnd? (skipSpaces cs))

/-- The quotes at the end of a text of several lines: three close it, and up to two before them
belong to it. Gives the quotes that belong to the text and what follows. -/
def closingQuotes? (quote : Char) (cs : List Char) : Option (List Char × List Char) :=
  let run := cs.takeWhile (· == quote)
  if run.length < 3 then none
  else if run.length ≤ 5 then some (run.drop 3, cs.dropWhile (· == quote))
  else some (run.take 2, cs.drop 5)

/-- The rest of a text of several lines, and what follows its closing quotes; escapes count where
`escapes` says so. Line ends stay as they are written. -/
def longText (quote : Char) (escapes : Bool) : Nat → List Char → Option (List Char × List Char)
  | 0, _ | _, [] => none
  | fuel + 1, c :: rest =>
    if c = quote then
      match closingQuotes? quote (c :: rest) with
      | some found => some found
      | none => do
        let (text, rest) ← longText quote escapes fuel rest
        return (c :: text, rest)
    else if c = '\\' ∧ escapes then
      match joinLines? rest with
      | some rest => longText quote escapes fuel rest
      | none => do
        let (d, rest) ← escape? rest
        let (text, rest) ← longText quote escapes fuel rest
        return (d :: text, rest)
    else if isTextChar c ∨ (lineEnd? (c :: rest)).isSome then do
      let (text, rest) ← longText quote escapes fuel rest
      return (c :: text, rest)
    else none

/-- A quoted text of any kind, and what follows it. -/
def quotedText? : List Char → Option (List Char × List Char)
  | '"' :: '"' :: '"' :: rest => longText '"' true rest.length (skipFirstLineEnd rest)
  | '\'' :: '\'' :: '\'' :: rest => longText '\'' false rest.length (skipFirstLineEnd rest)
  | '"' :: rest => basicText rest.length rest
  | '\'' :: rest => literalText rest
  | _ => none

/-! ### Names -/

/-- Whether a character may stand in an unquoted name. -/
def isNameChar (c : Char) : Bool := c.isAlphanum || c == '_' || c == '-'

/-- A simple name, and what follows it. Names in quotes have one line. -/
def simpleName? (cs : List Char) : Option (String × List Char) :=
  match cs with
  | '"' :: rest => (basicText rest.length rest).map fun (t, rest) => (String.ofList t, rest)
  | '\'' :: rest => (literalText rest).map fun (t, rest) => (String.ofList t, rest)
  | _ =>
    match cs.takeWhile isNameChar with
    | [] => none
    | name => some (String.ofList name, cs.dropWhile isNameChar)

/-- The greatest number of parts of a dotted name, and how deep arrays and tables in braces may
nest. -/
def maxDepth : Nat := 80

/-- A dotted name of at most `parts` parts, and what follows it and its blanks. -/
def namesUpTo? : Nat → List Char → Option (List String × List Char)
  | 0, _ => none
  | parts + 1, cs => do
    let (name, rest) ← simpleName? (skipSpaces cs)
    match skipSpaces rest with
    | '.' :: rest =>
      let (path, rest) ← namesUpTo? parts rest
      return (name :: path, rest)
    | rest => return ([name], rest)

/-- A dotted name, and what follows it and its blanks. -/
def dottedName? (cs : List Char) : Option (List String × List Char) := namesUpTo? maxDepth cs

/-! ### Values -/

mutual

/-- The value at the front of a text, and what follows it, where arrays and tables in braces may
nest `depth` deep. -/
def value? (depth : Nat) : Nat → List Char → Option (Value × List Char)
  | 0, _ => none
  | fuel + 1, cs =>
    match cs, depth with
    | '[' :: _, 0 | '\x7b' :: _, 0 => none
    | '[' :: rest, inner + 1 => do
      let (items, rest) ← items? inner fuel rest
      return (.array items, rest)
    | '\x7b' :: rest, inner + 1 => do
      let (members, rest) ← inlineMembers? inner fuel [] rest
      return (.table (membersToValues members), rest)
    | '"' :: _, _ | '\'' :: _, _ => do
      let (text, rest) ← quotedText? cs
      return (.text (String.ofList text), rest)
    | _, _ => do
      let (run, rest) := bareRun cs
      return (← scalar? run, rest)

/-- The items of an array up to its closing bracket, and what follows it. -/
def items? (depth : Nat) : Nat → List Char → Option (List Value × List Char)
  | 0, _ => none
  | fuel + 1, cs =>
    match skipLines cs.length cs with
    | ']' :: rest => some ([], rest)
    | cs => do
      let (v, rest) ← value? depth fuel cs
      match skipLines rest.length rest with
      | ',' :: rest =>
        let (vs, rest) ← items? depth fuel rest
        return (v :: vs, rest)
      | ']' :: rest => return ([v], rest)
      | _ => none

/-- The members of a table in braces up to its closing brace, and what follows it. Lines may end
before and after a name and a value, but not within a name. -/
def inlineMembers? (depth : Nat) : Nat → Members → List Char → Option (Members × List Char)
  | 0, _, _ => none
  | fuel + 1, members, cs =>
    match skipLines cs.length cs with
    | '\x7d' :: rest => some (members, rest)
    | cs => do
      let (path, rest) ← dottedName? cs
      match skipLines rest.length rest with
      | '=' :: rest =>
        let (v, rest) ← value? depth fuel (skipLines rest.length rest)
        let members ← assign .dotted v path members
        match skipLines rest.length rest with
        | ',' :: rest => inlineMembers? depth fuel members rest
        | '\x7d' :: rest => return (members, rest)
        | _ => none
      | _ => none

end

/-! ### Lines -/

/-- A document while it is read: its root table, and the path of the table that is open. -/
structure State where
  root : Members
  openPath : List String

/-- The state after one line that is no blank line, and what follows the line. -/
def line? (reach : Reach) (s : State) (cs : List Char) : Option (State × List Char) :=
  match cs with
  | '[' :: '[' :: rest => do
    let (path, rest) ← dottedName? rest
    match rest, path.reverse with
    | ']' :: ']' :: rest, name :: parents =>
      let root ← descend (openElement name) parents.reverse s.root
      return (⟨root, path⟩, ← endOfLine? rest)
    | _, _ => none
  | '[' :: rest => do
    let (path, rest) ← dottedName? rest
    match rest, path.reverse with
    | ']' :: rest, name :: parents =>
      let root ← descend (openTable name) parents.reverse s.root
      return (⟨root, path⟩, ← endOfLine? rest)
    | _, _ => none
  | _ => do
    let (path, rest) ← dottedName? cs
    match rest with
    | '=' :: rest =>
      let (v, rest) ← value? maxDepth (2 * rest.length + 2) (skipSpaces rest)
      let root ← descend (assign reach v path) s.openPath s.root
      return (⟨root, s.openPath⟩, ← endOfLine? rest)
    | _ => none

/-- The root table after all lines; `fuel` bounds their number. -/
def linesFrom (reach : Reach) : Nat → State → List Char → Option Members
  | 0, _, _ => none
  | fuel + 1, s, cs =>
    match skipSpaces (skipLines cs.length cs) with
    | [] => some s.root
    | cs => do
      let (s, rest) ← line? reach s cs
      linesFrom reach fuel s rest

/-- A text without the byte order mark that may come first. -/
def withoutMark (text : String) : String :=
  match text.toList with
  | '\uFEFF' :: rest => String.ofList rest
  | _ => text

/-- The members of a document's root table; a byte order mark may come first. -/
def parse (reach : Reach) (text : String) : Option (List (String × Value)) :=
  let cs := (withoutMark text).toList
  (linesFrom reach (cs.length + 1) ⟨[], []⟩ cs).map membersToValues

end TenantSettings.Toml

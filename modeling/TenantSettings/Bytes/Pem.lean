import TenantSettings.Bytes.Base64
import TenantSettings.Text.Split
import TenantSettings.Unicode.Blank

/-!
# PEM armour

A PEM document is a sequence of blocks between a `BEGIN` and an `END` line; text before, between and
after them counts for nothing.  A block holds base64 data, with header lines before it when a blank
line separates them.

* `Pem.blocks`: all blocks of a document, up to the first place where no whole block follows.
* `Pem.firstBlock`: the first block alone.
-/

namespace TenantSettings.Pem

/-- Why a block cannot be read. -/
inductive Fault where
  | noBlock
  | missingBegin
  | missingEnd
  | mismatch (opening closing : String)
  | badData (data : String)
  | badHeader (line : String)
deriving DecidableEq, Repr

/-- How a fault is described to a user. -/
def Fault.message : Fault → String
  | .noBlock => "malformedframing"
  | .missingBegin => "missing BEGIN tag"
  | .missingEnd => "missing END tag"
  | .mismatch opening closing =>
    "mismatching BEGIN (\"" ++ opening ++ "\") and END (\"" ++ closing ++ "\") tags"
  | .badData _ => "invalid data"
  | .badHeader line => "invalid header: " ++ line

/-- A decoded block. -/
structure Block where
  label : String
  contents : List UInt8
deriving DecidableEq, Repr

/-- The parts of a block before they are checked. -/
structure Frame where
  opening : List Char
  headers : List Char
  data : List Char
  closing : List Char

/-- One running search for a marker: `owed` is what is missing of it, `seen` what was read so far,
the last character first. A mismatch starts the marker anew with the next character. -/
def readUntilFrom (marker owed seen : List Char) : List Char → Option (List Char × List Char)
  | [] => none
  | c :: cs =>
    match owed with
    | [] => none
    | [m] =>
      if c = m then some (((c :: seen).drop marker.length).reverse, cs)
      else readUntilFrom marker marker (c :: seen) cs
    | m :: ms =>
      if c = m then readUntilFrom marker ms (c :: seen) cs
      else readUntilFrom marker marker (c :: seen) cs

/-- What stands before a marker, and what follows it. -/
def readUntil (marker cs : List Char) : Option (List Char × List Char) :=
  readUntilFrom marker marker [] cs

/-- Whether a character counts as blank around the lines of a block. -/
def isBlank (c : Char) : Bool := c = ' ' || c = '\t' || c = '\n' || c = '\r'

/-- The header lines and the data of a block's body. -/
def splitBody (body : List Char) : List Char × List Char :=
  ((readUntil ['\n', '\n'] body).or (readUntil ['\r', '\n', '\r', '\n'] body)).getD ([], body)

/-- The first frame of a document, and what follows it. -/
def firstFrame (cs : List Char) : Option (Frame × List Char) := do
  let (_, cs) ← readUntil "-----BEGIN ".toList cs
  let (opening, cs) ← readUntil "-----".toList cs
  let (body, cs) ← readUntil "-----END ".toList (cs.dropWhile isBlank)
  let (closing, cs) ← readUntil "-----".toList cs
  let (headers, data) := splitBody body
  return ({ opening, headers, data, closing }, cs.dropWhile isBlank)

/-- The frames of a document; `fuel` bounds their number. -/
def framesFrom : Nat → List Char → List Frame
  | 0, _ => []
  | fuel + 1, cs =>
    match firstFrame cs with
    | none => []
    | some (frame, rest) => frame :: framesFrom fuel rest

/-- A line without the carriage return that a line feed followed. -/
def endLine (line : List Char) : List Char :=
  match line.reverse with
  | '\r' :: rest => rest.reverse
  | _ => line

/-- The lines of a text. A last line that is empty does not count. -/
def lines (cs : List Char) : List (List Char) :=
  let parts := Text.split (· == '\n') cs
  parts.dropLast.map endLine ++ (parts.getLast?.toList.filter (!·.isEmpty))

/-- The block of a frame, or the first thing wrong with it. -/
def Frame.block (f : Frame) : Except Fault Block :=
  if f.opening = [] then .error .missingBegin
  else if f.closing = [] then .error .missingEnd
  else if f.opening ≠ f.closing then
    .error (.mismatch (String.ofList f.opening) (String.ofList f.closing))
  else
    match Base64.decodeChars (f.data.filter (!Unicode.isWhiteSpace ·)) with
    | none => .error (.badData (String.ofList (f.data.filter (!Unicode.isWhiteSpace ·))))
    | some contents =>
      match (lines f.headers).find? (!·.contains ':') with
      | some line => .error (.badHeader (String.ofList line))
      | none => .ok { label := String.ofList f.opening, contents }

/-- All blocks of a document; the first faulty one refuses it. -/
def blocks (document : String) : Except Fault (List Block) :=
  (framesFrom document.toList.length document.toList).mapM Frame.block

/-- The first block of a document, whatever follows it. -/
def firstBlock (document : String) : Except Fault Block :=
  match firstFrame document.toList with
  | none => .error .noBlock
  | some (frame, _) => frame.block

end TenantSettings.Pem

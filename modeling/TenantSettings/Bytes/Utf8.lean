/-!
# Text as bytes

The UTF-8 encoding of a text, and the place where bytes stop being one.

* `decode_encode`: a text is read back from its bytes.
* `encode_of_decode`: bytes that are read as a text are the bytes of that text.
* `encode_eq_flatMap`: the bytes of a text are those of its characters.
-/

namespace TenantSettings.Utf8

/-- The bytes of a text. -/
def encode (s : String) : List UInt8 := s.toUTF8.data.toList

/-- The bytes of a text are those of its characters, one after another. -/
theorem encode_eq_flatMap (s : String) : encode s = s.toList.flatMap String.utf8EncodeChar := by
  rw [encode, String.toUTF8_eq_toByteArray, ← String.utf8Encode_toList]
  simp [List.utf8Encode]

/-- The first fault of a byte sequence that is no text: where it starts, and how many bytes are
wrong.  `none` in place of a count says that the input ends inside a character. -/
structure Fault where
  start : Nat
  width : Option Nat
deriving DecidableEq, Repr

/-- How a fault is described to a user. -/
def Fault.message (f : Fault) : String :=
  match f.width with
  | some n => "invalid utf-8 sequence of " ++ toString n ++ " bytes from index " ++ toString f.start
  | none => "incomplete utf-8 byte sequence from index " ++ toString f.start

/-- Whether a byte continues a character. -/
def isContinuation (b : UInt8) : Bool := 0x80 ≤ b && b ≤ 0xBF

/-- The number of bytes that a leading byte announces and the range of the byte after it; `none`
for a byte that starts no character. -/
def leading (b : UInt8) : Option (Nat × UInt8 × UInt8) :=
  if b ≤ 0x7F then some (1, 0x80, 0xBF)
  else if b < 0xC2 then none
  else if b ≤ 0xDF then some (2, 0x80, 0xBF)
  else if b = 0xE0 then some (3, 0xA0, 0xBF)
  else if b = 0xED then some (3, 0x80, 0x9F)
  else if b ≤ 0xEF then some (3, 0x80, 0xBF)
  else if b = 0xF0 then some (4, 0x90, 0xBF)
  else if b ≤ 0xF3 then some (4, 0x80, 0xBF)
  else if b = 0xF4 then some (4, 0x80, 0x8F)
  else none

/-- The fault, if any, within the continuation bytes of a character of which `seen` bytes are
known to be right and `owed` are still to come. -/
def continuationFault (start seen : Nat) : Nat → List UInt8 → Option Fault
  | 0, _ => none
  | _ + 1, [] => some ⟨start, none⟩
  | owed + 1, b :: rest =>
    if isContinuation b then continuationFault start (seen + 1) owed rest
    else some ⟨start, some seen⟩

/-- The fault, if any, of the character at the front of a byte sequence, and its width. -/
def characterFault (start : Nat) (b : UInt8) (rest : List UInt8) : Except Fault Nat :=
  match leading b with
  | none => .error ⟨start, some 1⟩
  | some (1, _, _) => .ok 1
  | some (width, low, high) =>
    match rest with
    | [] => .error ⟨start, none⟩
    | second :: others =>
      if low ≤ second && second ≤ high then
        match continuationFault start 2 (width - 2) others with
        | some fault => .error fault
        | none => .ok width
      else .error ⟨start, some 1⟩

/-- The first fault of a byte sequence, read from position `start` on; `fuel` bounds the number
of characters. -/
def faultFrom (start : Nat) : Nat → List UInt8 → Option Fault
  | 0, _ | _, [] => none
  | fuel + 1, b :: rest =>
    match characterFault start b rest with
    | .error fault => some fault
    | .ok width => faultFrom (start + width) fuel ((b :: rest).drop width)

/-- The first fault of a byte sequence, the last position when there is none. -/
def firstFault (bytes : List UInt8) : Fault :=
  (faultFrom 0 bytes.length bytes).getD ⟨bytes.length, none⟩

/-- The text that bytes encode, or their first fault. -/
def decode (bytes : List UInt8) : Except Fault String :=
  match String.fromUTF8? ⟨bytes.toArray⟩ with
  | some s => .ok s
  | none => .error (firstFault bytes)

/-- A text is read back from its bytes. -/
theorem decode_encode (s : String) : decode (encode s) = .ok s := by
  have h : String.fromUTF8? s.toUTF8 = some s := by
    unfold String.fromUTF8?
    rw [String.toUTF8_eq_toByteArray, dif_pos s.isValidUTF8]
    rfl
  simp only [decode, encode, Array.toArray_toList, h]

/-- Two texts of the same bytes are the same. -/
theorem encode_inj {s t : String} (h : encode s = encode t) : s = t := by
  have read := decode_encode s
  rw [h, decode_encode t] at read
  exact (Except.ok.inj read).symm

/-- Bytes that are read as a text are the bytes of that text. -/
theorem encode_of_decode {bytes : List UInt8} {s : String} (h : decode bytes = .ok s) :
    encode s = bytes := by
  unfold decode String.fromUTF8? at h
  split at h
  · next t ht =>
    split at ht
    · cases ht; cases h; rfl
    · cases ht
  · cases h

end TenantSettings.Utf8

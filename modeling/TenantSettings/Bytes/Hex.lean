/-!
# Hexadecimal text

Bytes as two hexadecimal digits each: written in small letters, read in either case.

* `decode_encode`: what is written is read back.
-/

namespace TenantSettings.Hex

/-- The digit of a value below sixteen. -/
def digit (n : Nat) : Char :=
  if n < 10 then Char.ofNat ('0'.toNat + n) else Char.ofNat ('a'.toNat + (n - 10))

/-- The capital digit of a value below sixteen. -/
def capitalDigit (n : Nat) : Char :=
  if n < 10 then Char.ofNat ('0'.toNat + n) else Char.ofNat ('A'.toNat + (n - 10))

/-- The value of a hexadecimal digit in either case. -/
def value? (c : Char) : Option Nat :=
  if '0' ≤ c ∧ c ≤ '9' then some (c.toNat - '0'.toNat)
  else if 'a' ≤ c ∧ c ≤ 'f' then some (c.toNat - 'a'.toNat + 10)
  else if 'A' ≤ c ∧ c ≤ 'F' then some (c.toNat - 'A'.toNat + 10)
  else none

/-- The two digits of a byte. -/
def byteDigits (b : UInt8) : List Char := [digit (b.toNat / 16), digit (b.toNat % 16)]

/-- Bytes written in small hexadecimal digits. -/
def encodeChars (bytes : List UInt8) : List Char := bytes.flatMap byteDigits

/-- Bytes written in small hexadecimal digits. -/
def encode (bytes : List UInt8) : String := String.ofList (encodeChars bytes)

/-- Bytes written in capital hexadecimal digits. -/
def encodeCapital (bytes : List UInt8) : String :=
  String.ofList (bytes.flatMap fun b => [capitalDigit (b.toNat / 16), capitalDigit (b.toNat % 16)])

/-- Bytes read from pairs of digits; `none` for an odd digit or a character that is none. -/
def decodeChars : List Char → Option (List UInt8)
  | [] => some []
  | [_] => none
  | c :: d :: rest => do
    let high ← value? c
    let low ← value? d
    let bytes ← decodeChars rest
    return UInt8.ofNat (16 * high + low) :: bytes

/-- Bytes read from pairs of digits. -/
def decode (s : String) : Option (List UInt8) := decodeChars s.toList

/-- The digits of every byte are read back as that byte. -/
theorem decodeChars_byteDigits (b : UInt8) (rest : List Char) :
    decodeChars (byteDigits b ++ rest) = (decodeChars rest).map (b :: ·) := by
  have digits : ∀ n : Fin 16, value? (digit n) = some n.val := by decide
  have high : value? (digit (b.toNat / 16)) = some (b.toNat / 16) :=
    digits ⟨b.toNat / 16, by have := b.toNat_lt; omega⟩
  have low : value? (digit (b.toNat % 16)) = some (b.toNat % 16) :=
    digits ⟨b.toNat % 16, by omega⟩
  have whole : UInt8.ofNat (16 * (b.toNat / 16) + b.toNat % 16) = b := by
    rw [Nat.div_add_mod]; simp
  simp only [byteDigits, List.cons_append, List.nil_append, decodeChars, high, low,
    Option.bind_eq_bind, Option.bind_some, whole]
  cases decodeChars rest <;> rfl

/-- What is written is read back. -/
theorem decode_encode (bytes : List UInt8) : decode (encode bytes) = some bytes := by
  rw [decode, encode, String.toList_ofList]
  induction bytes with
  | nil => rfl
  | cons b rest ih => simp [encodeChars, decodeChars_byteDigits] at ih ⊢; exact ih

/-- Bytes are told apart by their digits. -/
theorem encode_inj {bytes bytes' : List UInt8} (h : encode bytes = encode bytes') :
    bytes = bytes' := by
  have decoded := congrArg decode h
  rw [decode_encode, decode_encode] at decoded
  exact Option.some.inj decoded

end TenantSettings.Hex

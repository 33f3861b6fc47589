import Mathlib.Tactic.Lemma
import Mathlib.Tactic.SplitIfs
import TenantSettings.Json.Parser
import TenantSettings.Json.Printer

/-!
# Strings and numbers in JSON text

What is written for a text or a number is read back, and reading stops where the writing did.

* `stringBody_escaped`: a string, whatever characters are escaped in it.
* `digitsValue_natChars`, `natChars_leading_zero`: digits without a leading zero.
* `Delimited`: what a number may stand before; `magnitude_integer` and `magnitude_decimal`.
-/

namespace TenantSettings.Json

/-! ### Strings -/

/-- A hexadecimal digit has the value that it was written for. -/
lemma hexValue?_hexDigit : ∀ n < 16, hexValue? (hexDigit n) = some n := by
  decide

/-- A control character comes back from its sixteen-bit escape. -/
lemma ofUnit_control {n : Nat} (h : n < 0x20) : Piece.ofUnit n = .char (Char.ofNat n) := by
  rw [Piece.ofUnit, if_neg (by omega), if_neg (by omega)]

/-- A one-letter escape is read as the character it stands for. -/
lemma pieces_short {e c : Char} (h : shortEscape? e = some c) (rest : List Char) :
    pieces ('\\' :: e :: rest) = (pieces rest).map fun p => (.char c :: p.1, p.2) := by
  have letter : e ≠ 'u' := by
    rintro rfl
    cases h
  rw [pieces, h]
  · cases pieces rest <;> rfl
  · exact fun _ _ _ _ _ same _ => letter same

/-- A sixteen-bit escape of a control character is read as the character. -/
lemma pieces_control {c : Char} (h : c.toNat < 0x20) (rest : List Char) :
    pieces ('\\' :: 'u' :: '0' :: '0' :: hexDigit (c.toNat / 16) :: hexDigit (c.toNat % 16) :: rest)
      = (pieces rest).map fun p => (.char c :: p.1, p.2) := by
  have digits : hexFour? '0' '0' (hexDigit (c.toNat / 16)) (hexDigit (c.toNat % 16))
      = some c.toNat := by
    have zero : hexValue? '0' = some 0 := by decide
    rw [hexFour?, zero, hexValue?_hexDigit _ (by omega), hexValue?_hexDigit _ (by omega)]
    show some _ = some _
    congr 1
    omega
  rw [pieces, digits]
  show (pieces rest >>= fun p => some (Piece.ofUnit c.toNat :: p.1, p.2)) = _
  rw [ofUnit_control h, Char.ofNat_toNat]
  cases pieces rest <;> rfl

/-- Any other character is read as itself. -/
lemma pieces_plain {c : Char} (quote : c ≠ '"') (slash : c ≠ '\\') (h : ¬ c.toNat < 0x20)
    (rest : List Char) :
    pieces (c :: rest) = (pieces rest).map fun p => (.char c :: p.1, p.2) := by
  rw [pieces, if_neg (not_or.mpr ⟨h, slash⟩)]
  · cases pieces rest <;> rfl
  · exact quote
  · exact fun _ _ _ _ _ same _ => slash same
  · exact fun _ _ same _ => slash same

/-- One character, escaped or not, is read as one piece. -/
lemma pieces_escapeChar (c : Char) (rest : List Char) :
    pieces (escapeChar c ++ rest) = (pieces rest).map fun p => (.char c :: p.1, p.2) := by
  unfold escapeChar
  -- the cases of the printer: marks that are escaped, control characters, and all others
  by_cases quote : c = '"'
  · rw [if_pos quote]
    exact pieces_short (by rw [quote]; rfl) rest
  rw [if_neg quote]
  by_cases slash : c = '\\'
  · rw [if_pos slash]
    exact pieces_short (by rw [slash]; rfl) rest
  rw [if_neg slash]
  by_cases control : c.toNat < 0x20
  · rw [if_pos control]
    split_ifs with backspace tab feed form carriage
    · exact pieces_short (by rw [backspace]; rfl) rest
    · exact pieces_short (by rw [tab]; rfl) rest
    · exact pieces_short (by rw [feed]; rfl) rest
    · exact pieces_short (by rw [form]; rfl) rest
    · exact pieces_short (by rw [carriage]; rfl) rest
    · exact pieces_control control rest
  · rw [if_neg control]
    exact pieces_plain quote slash control rest

/-- The characters of a text are read up to the closing mark. -/
lemma pieces_escaped (cs rest : List Char) :
    pieces (cs.flatMap escapeChar ++ '"' :: rest) = some (cs.map .char, rest) := by
  induction cs with
  | nil => rw [List.flatMap_nil, List.nil_append, pieces]; rfl
  | cons c cs ih =>
      rw [List.flatMap_cons, List.append_assoc, pieces_escapeChar, ih]
      rfl

/-- Pieces without halves of pairs are joined to their characters. -/
lemma joinPieces_map_char (cs : List Char) : joinPieces (cs.map .char) = some cs := by
  induction cs with
  | nil => rfl
  | cons c cs ih => rw [List.map_cons, joinPieces, ih]; rfl

/-- The body of a written string is read back as its text. -/
lemma stringBody_escaped (s : String) (rest : List Char) :
    stringBody (s.toList.flatMap escapeChar ++ '"' :: rest) = some (some s, rest) := by
  rw [stringBody, pieces_escaped]
  simp [joinPieces_map_char]

/-! ### Numbers -/

/-- Digits write the number they were made from. -/
lemma digitsValue_natChars (n : Nat) : digitsValue (natChars n) = n :=
  Nat.ofDigitChars_ten_toDigits

lemma isDigit_of_mem_natChars {n : Nat} {c : Char} (h : c ∈ natChars n) : isDigit c = true :=
  Nat.isDigit_of_mem_toDigits (by decide) (by decide) h

/-- The text of a number starts with a digit. -/
lemma exists_natChars (n : Nat) : ∃ d ds, natChars n = d :: ds ∧ isDigit d = true := by
  obtain ⟨d, ds, front⟩ := List.exists_cons_of_ne_nil (Nat.toDigits_ne_nil (n := n) (b := 10))
  have mem : d ∈ natChars n := by
    rw [natChars, front]
    exact List.mem_cons_self
  exact ⟨d, ds, front, isDigit_of_mem_natChars mem⟩

/-- Only zero is written with a leading zero, and then with nothing else. -/
lemma natChars_leading_zero {n : Nat} (h : (natChars n).head? = some '0') : n = 0 := by
  have zero : ∀ d < 10, Nat.digitChar d = '0' → d = 0 := by decide
  induction n using Nat.strongRecOn with
  | ind n ih =>
      rw [natChars, Nat.toDigits_eq_if (by decide)] at h
      split at h
      · next small => exact zero n small (Option.some.inj h)
      · next large =>
          obtain ⟨d, ds, front, -⟩ := exists_natChars (n / 10)
          have shorter : (natChars (n / 10)).head? = some '0' := by
            rw [show Nat.toDigits 10 (n / 10) = d :: ds from front] at h
            rw [front]
            exact h
          have := ih (n / 10) (by omega) shorter
          omega

/-- What a number may stand before: the end of the text, or what goes on or closes an array or an
object. -/
def Delimited (rest : List Char) : Prop :=
  ∀ c ∈ rest.head?, c = ',' ∨ c = ']' ∨ c = '}'

/-- Digits are read up to the first character that is none. -/
lemma span_natChars (n : Nat) {rest : List Char} (h : ∀ c ∈ rest.head?, isDigit c = false) :
    (natChars n ++ rest).takeWhile isDigit = natChars n
      ∧ (natChars n ++ rest).dropWhile isDigit = rest := by
  have digits : ∀ c ∈ natChars n, isDigit c = true := fun c => isDigit_of_mem_natChars
  rw [List.takeWhile_append_of_pos digits, List.dropWhile_append_of_pos digits]
  cases rest with
  | nil => simp
  | cons c rest => simp [h c rfl]

/-- The digits of a number are its whole part. -/
lemma whole_natChars (n : Nat) :
    ¬ (natChars n = [] ∨ ((natChars n).head? = some '0' ∧ (natChars n).length > 1)) := by
  rintro (none | ⟨zero, long⟩)
  · exact Nat.toDigits_ne_nil none
  · rw [natChars_leading_zero zero] at long
    exact absurd long (by decide)

lemma Delimited.isDigit_head {rest : List Char} (ends : Delimited rest) :
    ∀ c ∈ rest.head?, isDigit c = false := by
  intro c hc
  rcases ends c hc with rfl | rfl | rfl <;> rfl

/-- An integer is read up to its end; minus zero is none. -/
lemma magnitude_integer {negative : Bool} {n : Nat} (h : negative = true → n ≠ 0)
    {rest : List Char} (ends : Delimited rest) :
    magnitude negative (natChars n ++ rest) = some (.integer negative n, rest) := by
  obtain ⟨whole, after⟩ := span_natChars n ends.isDigit_head
  have fraction : fractionDigits rest = some ([], rest) := by
    cases rest with
    | nil => rfl
    | cons c rest =>
        rcases ends c rfl with rfl | rfl | rfl <;> rfl
  have exponent : exponentPart rest = some (none, rest) := by
    cases rest with
    | nil => rfl
    | cons c rest =>
        rcases ends c rfl with rfl | rfl | rfl <;> rfl
  rw [magnitude]
  simp only [whole, after, if_neg (whole_natChars n), fraction, Option.bind_eq_bind,
    Option.bind_some, exponent, List.append_nil, digitsValue_natChars]
  rw [if_pos ⟨trivial, trivial, fun both => h both.1 both.2⟩]
  rfl

/-- An exponent is read up to its end, with or without a sign. -/
lemma exponentPart_intChars (e : Int) {rest : List Char} (ends : Delimited rest) :
    exponentPart ('e' :: (intChars e ++ rest)) = some (some e, rest) := by
  obtain ⟨digits, after⟩ := span_natChars e.natAbs ends.isDigit_head
  obtain ⟨d, ds, front, digit⟩ := exists_natChars e.natAbs
  rw [front] at digits after
  -- only a negative exponent has a sign; a digit is what else the text starts with
  by_cases negative : e < 0
  · have text : intChars e = '-' :: d :: ds := by simp [intChars, signChars, negative, front]
    have value : -(digitsValue (d :: ds) : Int) = e := by
      rw [← front, digitsValue_natChars]
      omega
    rw [text, List.cons_append]
    unfold exponentPart
    simp only [true_or, if_true, digits, after, value]
  · have text : intChars e = d :: ds := by simp [intChars, signChars, negative, front]
    have value : (digitsValue (d :: ds) : Int) = e := by
      rw [← front, digitsValue_natChars]
      omega
    rw [text, exponentPart]
    · simp only [true_or, if_true, digits, after, value]
      rfl
    · rintro r same
      cases same
      cases digit
    · rintro r same
      cases same
      cases digit

/-- A decimal is read up to its end. -/
lemma magnitude_decimal (negative : Bool) (m : Nat) (e : Int) {rest : List Char}
    (ends : Delimited rest) :
    magnitude negative (natChars m ++ 'e' :: (intChars e ++ rest))
      = some (.decimal negative m e, rest) := by
  have stop : ∀ c ∈ ('e' :: (intChars e ++ rest)).head?, isDigit c = false := by
    rintro c hc
    cases hc
    rfl
  obtain ⟨whole, after⟩ := span_natChars m stop
  have fraction : fractionDigits ('e' :: (intChars e ++ rest))
      = some ([], 'e' :: (intChars e ++ rest)) := rfl
  rw [magnitude]
  simp only [whole, after, if_neg (whole_natChars m), fraction, Option.bind_eq_bind,
    Option.bind_some, exponentPart_intChars e ends, List.append_nil, digitsValue_natChars]
  rw [if_neg (by simp)]
  simp

/-- A sign belongs to the number behind it. -/
lemma number_signed (negative : Bool) (n : Nat) (rest : List Char) :
    number (signChars negative ++ (natChars n ++ rest))
      = magnitude negative (natChars n ++ rest) := by
  cases negative with
  | true => rfl
  | false =>
      obtain ⟨d, ds, front, digit⟩ := exists_natChars n
      rw [front]
      show number (d :: (ds ++ rest)) = magnitude false (d :: (ds ++ rest))
      rw [number]
      rintro r same
      cases same
      cases digit

end TenantSettings.Json

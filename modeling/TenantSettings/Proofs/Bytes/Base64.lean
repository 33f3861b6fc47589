import Mathlib.Tactic.Lemma
import TenantSettings.Bytes.Base64
import TenantSettings.Unicode.Blank

/-!
# Base64 text has one spelling

Bytes are read back from their text, and a text that is read at all is the text of the bytes it is
read as, so no byte sequence has a second spelling.

* `decode_encode`, `encode_of_decode`: reading and writing are inverse to each other;
  `decode_eq_some_iff`, `decode_eq_none_iff`: what is read, in terms of what is written.
* `length_encode`: four characters for every three bytes, a last group filled up.
* `isWhiteSpace_of_mem_encode`: no character of a base64 text is white space.
-/

namespace TenantSettings.Base64

/-! ### Characters -/

/-- The character of a six-bit value has that value. -/
lemma value?_letter : ∀ n < 64, value? (letter n) = some n := by
  decide

/-- The character of a six-bit value is not the one that pads. -/
lemma letter_ne_pad : ∀ n < 64, letter n ≠ '=' := by
  decide

/-- The characters of an alphabet that starts at `first`, counted from there. -/
lemma ofNat_add_sub {first c : Char} (h : first ≤ c) :
    Char.ofNat (first.toNat + (c.toNat - first.toNat)) = c := by
  have below : first.toNat ≤ c.toNat := h
  rw [Nat.add_sub_cancel' below, Char.ofNat_toNat]

/-- A character is written for the value that it has, and that value has six bits. -/
lemma letter_of_value? {c : Char} {n : Nat} (h : value? c = some n) : n < 64 ∧ letter n = c := by
  have upper : 'Z'.toNat = 'A'.toNat + 25 ∧ 'z'.toNat = 'a'.toNat + 25
      ∧ '9'.toNat = '0'.toNat + 9 := by decide
  have le_toNat {a b : Char} (hab : a ≤ b) : a.toNat ≤ b.toNat := hab
  -- one case for each range of the alphabet, in the order in which the reader tries them
  unfold value? at h
  split at h
  · next range =>
      have last := le_toNat range.2
      cases h
      rw [letter, if_pos (by omega)]
      exact ⟨by omega, ofNat_add_sub range.1⟩
  split at h
  · next range =>
      have last := le_toNat range.2
      cases h
      rw [letter, if_neg (by omega), if_pos (by omega), Nat.add_sub_cancel]
      exact ⟨by omega, ofNat_add_sub range.1⟩
  split at h
  · next range =>
      have last := le_toNat range.2
      cases h
      rw [letter, if_neg (by omega), if_neg (by omega), if_pos (by omega), Nat.add_sub_cancel]
      exact ⟨by omega, ofNat_add_sub range.1⟩
  split at h
  · next plus =>
      cases h
      exact ⟨by decide, plus.symm⟩
  split at h
  · next slash =>
      cases h
      exact ⟨by decide, slash.symm⟩
  · cases h

/-! ### Groups of characters -/

/-- A byte is made from its number. -/
lemma ofNat_eq {n : Nat} {a : UInt8} (h : n = a.toNat) : UInt8.ofNat n = a := by
  rw [h, UInt8.ofNat_toNat]

/-- Four characters stand for the three bytes that they were written for. -/
lemma fullGroup?_letters (a b c : UInt8) :
    fullGroup? (letter (a.toNat / 4)) (letter (a.toNat % 4 * 16 + b.toNat / 16))
      (letter (b.toNat % 16 * 4 + c.toNat / 64)) (letter (c.toNat % 64)) = some [a, b, c] := by
  have ha := a.toNat_lt
  have hb := b.toNat_lt
  have hc := c.toNat_lt
  rw [fullGroup?, value?_letter _ (by omega), value?_letter _ (by omega),
    value?_letter _ (by omega), value?_letter _ (by omega)]
  simp only [Option.bind_eq_bind, Option.bind_some]
  rw [ofNat_eq (a := a) (by omega), ofNat_eq (a := b) (by omega), ofNat_eq (a := c) (by omega)]

/-- A last group without padding stands for what it would stand for before others. -/
lemma lastGroup?_of_ne_pad (c d e : Char) {f : Char} (h : f ≠ '=') :
    lastGroup? c d e f = fullGroup? c d e f := by
  have pad : value? '=' = none := by decide
  by_cases he : e = '='
  · simp [lastGroup?, fullGroup?, h, he, pad]
  · simp [lastGroup?, fullGroup?, h, he]

/-- The bytes of a group without padding come before the bytes of what follows it. -/
lemma decodeChars_group (c d e : Char) {f : Char} (h : f ≠ '=') (rest : List Char) :
    decodeChars (c :: d :: e :: f :: rest)
      = (fullGroup? c d e f).bind fun group => (decodeChars rest).map (group ++ ·) := by
  cases rest with
  | nil =>
      simp only [decodeChars, lastGroup?_of_ne_pad c d e h]
      cases fullGroup? c d e f <;> simp
  | cons g rest =>
      rw [decodeChars]
      · cases fullGroup? c d e f with
        | none => rfl
        | some group => cases decodeChars (g :: rest) <;> rfl
      · simp

/-- The characters of a byte sequence are read back as the bytes. -/
lemma decodeChars_encodeChars (bytes : List UInt8) :
    decodeChars (encodeChars bytes) = some bytes := by
  -- three bytes at a time, as they are written; one or two at the end are padded
  induction bytes using encodeChars.induct with
  | case1 => rfl
  | case2 a =>
      have ha := a.toNat_lt
      rw [encodeChars, decodeChars, lastGroup?, value?_letter _ (by omega),
        value?_letter _ (by omega)]
      simp only [Option.bind_eq_bind, Option.bind_some, and_self, if_true]
      rw [if_pos (by omega), ofNat_eq (a := a) (by omega)]
  | case3 a b =>
      have ha := a.toNat_lt
      have hb := b.toNat_lt
      have unpadded : letter (b.toNat % 16 * 4) ≠ '=' := letter_ne_pad _ (by omega)
      rw [encodeChars, decodeChars, lastGroup?, value?_letter _ (by omega),
        value?_letter _ (by omega), value?_letter _ (by omega)]
      simp only [Option.bind_eq_bind, Option.bind_some, unpadded, false_and, if_false, if_true]
      rw [if_pos (by omega), ofNat_eq (a := a) (by omega), ofNat_eq (a := b) (by omega)]
  | case4 a b c rest ih =>
      rw [encodeChars, decodeChars_group _ _ _ (letter_ne_pad _ (by omega)), fullGroup?_letters, ih]
      rfl

/-! ### Read as bytes, written again -/

/-- A byte that is made from a small number has that number. -/
lemma toNat_ofNat {n : Nat} (h : n < 256) : (UInt8.ofNat n).toNat = n :=
  UInt8.toNat_ofNat_of_lt h

/-- Three bytes that are put together from four values are written as these values. -/
lemma encodeChars_values {x y z w : Nat} (hx : x < 64) (hy : y < 64) (hz : z < 64) (hw : w < 64)
    (rest : List UInt8) :
    encodeChars (UInt8.ofNat (x * 4 + y / 16) :: UInt8.ofNat (y % 16 * 16 + z / 4)
        :: UInt8.ofNat (z % 4 * 64 + w) :: rest)
      = letter x :: letter y :: letter z :: letter w :: encodeChars rest := by
  rw [encodeChars, toNat_ofNat (by omega), toNat_ofNat (by omega), toNat_ofNat (by omega)]
  have first : (x * 4 + y / 16) / 4 = x := by omega
  have second : (x * 4 + y / 16) % 4 * 16 + (y % 16 * 16 + z / 4) / 16 = y := by omega
  have third : (y % 16 * 16 + z / 4) % 16 * 4 + (z % 4 * 64 + w) / 64 = z := by omega
  have fourth : (z % 4 * 64 + w) % 64 = w := by omega
  rw [first, second, third, fourth]

/-- A group without padding is written again as it was. -/
lemma encodeChars_of_fullGroup? {c d e f : Char} {group : List UInt8}
    (h : fullGroup? c d e f = some group) (rest : List UInt8) :
    encodeChars (group ++ rest) = c :: d :: e :: f :: encodeChars rest := by
  simp only [fullGroup?, Option.bind_eq_bind, Option.bind_eq_some_iff] at h
  obtain ⟨x, hx, y, hy, z, hz, w, hw, made⟩ := h
  obtain ⟨x64, rfl⟩ := letter_of_value? hx
  obtain ⟨y64, rfl⟩ := letter_of_value? hy
  obtain ⟨z64, rfl⟩ := letter_of_value? hz
  obtain ⟨w64, rfl⟩ := letter_of_value? hw
  cases made
  exact encodeChars_values x64 y64 z64 w64 rest

/-- A last group, padded or not, is written again as it was: the bits that padding leaves over are
zero. -/
lemma encodeChars_of_lastGroup? {c d e f : Char} {group : List UInt8}
    (h : lastGroup? c d e f = some group) : encodeChars group = [c, d, e, f] := by
  by_cases pad : f = '='
  · subst pad
    simp only [lastGroup?, Option.bind_eq_bind, Option.bind_eq_some_iff] at h
    obtain ⟨x, hx, y, hy, h⟩ := h
    obtain ⟨x64, rfl⟩ := letter_of_value? hx
    obtain ⟨y64, rfl⟩ := letter_of_value? hy
    by_cases pads : e = '='
    · subst pads
      rw [if_pos (by simp)] at h
      -- two characters: the four bits that they leave over have to be zero
      split at h
      · next zero =>
          cases h
          rw [encodeChars, toNat_ofNat (by omega)]
          have first : (x * 4 + y / 16) / 4 = x := by omega
          have second : (x * 4 + y / 16) % 4 * 16 = y := by omega
          rw [first, second]
      · cases h
    -- three characters: the two bits that they leave over have to be zero
    · rw [if_neg (by simp [pads]), Option.bind_eq_some_iff] at h
      obtain ⟨z, hz, h⟩ := h
      obtain ⟨z64, rfl⟩ := letter_of_value? hz
      rw [if_pos trivial] at h
      split at h
      · next zero =>
          cases h
          rw [encodeChars, toNat_ofNat (by omega), toNat_ofNat (by omega)]
          have first : (x * 4 + y / 16) / 4 = x := by omega
          have second : (x * 4 + y / 16) % 4 * 16 + (y % 16 * 16 + z / 4) / 16 = y := by omega
          have third : (y % 16 * 16 + z / 4) % 16 * 4 = z := by omega
          rw [first, second, third]
      · cases h
  -- no padding: a group like those before it
  · rw [lastGroup?_of_ne_pad c d e pad] at h
    simpa [encodeChars] using encodeChars_of_fullGroup? h []

/-- A character sequence that is read as bytes is what these bytes are written as. -/
lemma encodeChars_of_decodeChars {cs : List Char} {bytes : List UInt8}
    (h : decodeChars cs = some bytes) : encodeChars bytes = cs := by
  induction cs using decodeChars.induct generalizing bytes with
  | case1 =>
      cases h
      rfl
  | case2 c d e f =>
      rw [decodeChars] at h
      exact encodeChars_of_lastGroup? h
  | case3 c d e f rest more ih =>
      rw [decodeChars] at h
      · simp only [Option.bind_eq_bind, Option.bind_eq_some_iff] at h
        obtain ⟨group, hgroup, others, hothers, made⟩ := h
        cases made
        rw [encodeChars_of_fullGroup? hgroup, ih hothers]
      · exact more
  | case4 cs nonempty noLast noGroup =>
      rw [decodeChars] at h
      · cases h
      all_goals assumption

/-! ### Texts -/

/-- Bytes are read back from their text. -/
theorem decode_encode (bytes : List UInt8) : decode (encode bytes) = some bytes := by
  rw [decode, encode, String.toList_ofList, decodeChars_encodeChars]

/-- A text that is read as bytes is the text of these bytes. -/
theorem encode_of_decode {s : String} {bytes : List UInt8} (h : decode s = some bytes) :
    encode bytes = s := by
  rw [encode, encodeChars_of_decodeChars h, String.ofList_toList]

/-- A text is read as the bytes that it is written for. -/
lemma decode_eq_some_iff {s : String} {bytes : List UInt8} :
    decode s = some bytes ↔ encode bytes = s := by
  refine ⟨encode_of_decode, ?_⟩
  rintro rfl
  exact decode_encode bytes

/-- The text is what some bytes are written as: whole groups of four characters, the last one padded
where it has to be, and no bit left over. -/
def Canonical (s : String) : Prop := ∃ bytes, encode bytes = s

/-- Only such texts are read at all. -/
lemma decode_eq_none_iff {s : String} : decode s = none ↔ ¬ Canonical s := by
  rw [Option.eq_none_iff_forall_ne_some]
  simp only [ne_eq, decode_eq_some_iff, Canonical, not_exists]

/-- Every three bytes take four characters, and so does what is left over. -/
theorem length_encode (bytes : List UInt8) :
    (encode bytes).length = 4 * ((bytes.length + 2) / 3) := by
  rw [encode, String.length_ofList]
  induction bytes using encodeChars.induct with
  | case1 => rfl
  | case2 a => simp [encodeChars]
  | case3 a b => simp [encodeChars]
  | case4 a b c rest ih =>
      simp only [encodeChars, List.length_cons, ih]
      omega

/-- A base64 text is made of the characters of six-bit values and of padding. -/
lemma mem_encodeChars {bytes : List UInt8} {c : Char} (h : c ∈ encodeChars bytes) :
    c = '=' ∨ ∃ n < 64, c = letter n := by
  induction bytes using encodeChars.induct with
  | case1 => cases h
  | case2 a =>
      have ha := a.toNat_lt
      simp only [encodeChars, List.mem_cons, List.not_mem_nil, or_false] at h
      rcases h with rfl | rfl | rfl | rfl
      · exact .inr ⟨_, by omega, rfl⟩
      · exact .inr ⟨_, by omega, rfl⟩
      · exact .inl rfl
      · exact .inl rfl
  | case3 a b =>
      have ha := a.toNat_lt
      have hb := b.toNat_lt
      simp only [encodeChars, List.mem_cons, List.not_mem_nil, or_false] at h
      rcases h with rfl | rfl | rfl | rfl
      · exact .inr ⟨_, by omega, rfl⟩
      · exact .inr ⟨_, by omega, rfl⟩
      · exact .inr ⟨_, by omega, rfl⟩
      · exact .inl rfl
  | case4 a b c rest ih =>
      have ha := a.toNat_lt
      have hb := b.toNat_lt
      have hc := c.toNat_lt
      simp only [encodeChars, List.mem_cons] at h
      rcases h with rfl | rfl | rfl | rfl | more
      · exact .inr ⟨_, by omega, rfl⟩
      · exact .inr ⟨_, by omega, rfl⟩
      · exact .inr ⟨_, by omega, rfl⟩
      · exact .inr ⟨_, by omega, rfl⟩
      · exact ih more

/-- No character of a base64 text is white space. -/
theorem isWhiteSpace_of_mem_encode {bytes : List UInt8} {c : Char}
    (h : c ∈ (encode bytes).toList) : Unicode.isWhiteSpace c = false := by
  have letters : ∀ n < 64, Unicode.isWhiteSpace (letter n) = false := by decide
  rw [encode, String.toList_ofList] at h
  rcases mem_encodeChars h with rfl | ⟨n, small, rfl⟩
  · decide
  · exact letters n small

end TenantSettings.Base64

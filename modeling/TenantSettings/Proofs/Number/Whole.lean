import Mathlib.Data.List.TakeWhile
import Mathlib.Tactic.Ring
import TenantSettings.Number.Binary64

/-!
# Whole numbers as texts and as doubles

What a whole number in digits is read as, as an integer and as a double, and how far the nearest
double of a whole number is from it.

* `int64?_toString`, `Binary64.ofText?_toString`: the digits of a number, read back.
* `Binary64.ofRatio_whole`: the nearest double of a whole number of at least fifty-three bits.
* `Binary64.toNatUpTo_ofRatio`: the whole number that this double stands for.
* `Binary64.roundNat_eq_self_iff`: which whole numbers are doubles.
-/

namespace TenantSettings.Number

/-! ### Digits -/

/-- There are ten digits: what holds of each of them holds of every digit. -/
lemma forall_digit {P : Char → Prop} (ten : ∀ n < 10, P (Char.ofNat (48 + n))) {c : Char}
    (digit : isDigit c = true) : P c := by
  obtain ⟨least, greatest⟩ : 48 ≤ c.toNat ∧ c.toNat ≤ 57 := by
    rw [isDigit, Bool.and_eq_true, decide_eq_true_eq, decide_eq_true_eq] at digit
    exact digit
  have own := ten (c.toNat - 48) (by omega)
  rwa [Nat.add_sub_cancel' least, Char.ofNat_toNat] at own

lemma isDigit_of_mem_toDigits {n : Nat} {c : Char} (h : c ∈ Nat.toDigits 10 n) :
    isDigit c = true :=
  Nat.isDigit_of_mem_toDigits (by decide) (by decide) h

/-- A number is written with a digit first. -/
lemma exists_toDigits (n : Nat) : ∃ d ds, Nat.toDigits 10 n = d :: ds ∧ isDigit d = true := by
  obtain ⟨d, ds, front⟩ := List.exists_cons_of_ne_nil (Nat.toDigits_ne_nil (n := n) (b := 10))
  have mem : d ∈ Nat.toDigits 10 n := front ▸ List.mem_cons_self
  exact ⟨d, ds, front, isDigit_of_mem_toDigits mem⟩

lemma natOfDigits?_toDigits (n : Nat) : natOfDigits? (Nat.toDigits 10 n) = some n := by
  have digits : (Nat.toDigits 10 n).all isDigit = true :=
    List.all_eq_true.mpr fun c => isDigit_of_mem_toDigits
  have value : digitsValue (Nat.toDigits 10 n) = n := Nat.ofDigitChars_ten_toDigits
  rw [natOfDigits?, if_pos ⟨Nat.toDigits_ne_nil, digits⟩, value]

/-- The digits of a number are read as the number, if it has no more than 63 bits. -/
lemma int64?_toString (n : Nat) :
    int64? (toString n)
      = if (n : Int) ≤ Int64.maxValue.toInt then some (Int64.ofInt n) else none := by
  have read := natOfDigits?_toDigits n
  have least : Int64.minValue.toInt ≤ (n : Int) := le_trans (by decide) (Int.natCast_nonneg n)
  obtain ⟨d, ds, front, digit⟩ := exists_toDigits n
  have text : (toString n).toList = d :: ds := Nat.toList_repr.trans front
  rw [front] at read
  rw [int64?, text]
  split
  · next same =>
      rw [(List.cons.inj same).1] at digit
      cases digit
  · next same =>
      rw [(List.cons.inj same).1] at digit
      cases digit
  · rw [read]
    show (if Int64.minValue.toInt ≤ (n : Int) ∧ (n : Int) ≤ Int64.maxValue.toInt then _ else _) = _
    simp only [least, true_and]

namespace Binary64

/-- Digits alone are read as the double nearest to their number. -/
lemma ofUnsigned?_toDigits (n : Nat) :
    ofUnsigned? false (Nat.toDigits 10 n) = some (ofDecimal false n 0) := by
  have whole : (Nat.toDigits 10 n).takeWhile isDigit = Nat.toDigits 10 n :=
    List.takeWhile_eq_self_iff.mpr fun c => isDigit_of_mem_toDigits
  have rest : (Nat.toDigits 10 n).dropWhile isDigit = [] :=
    List.dropWhile_eq_nil_iff.mpr fun c => isDigit_of_mem_toDigits
  have value : digitsValue (Nat.toDigits 10 n) = n := Nat.ofDigitChars_ten_toDigits
  have nonempty : Nat.toDigits 10 n ≠ [] := Nat.toDigits_ne_nil
  rw [ofUnsigned?, whole, rest]
  simp [exponentSuffix?, nonempty, value]

/-- The digits of a number are read as the double nearest to it. -/
lemma ofText?_toString (n : Nat) : ofText? (toString n) = some (ofDecimal false n 0) := by
  obtain ⟨d, ds, front, digit⟩ := exists_toDigits n
  have text : (toString n).toList = d :: ds := Nat.toList_repr.trans front
  have noWord : ∀ {c : Char} {cs : List Char}, d.toLower ≠ c →
      String.ofList ((d :: ds).map Char.toLower) ≠ String.ofList (c :: cs) := by
    intro c cs other same
    exact other (List.cons.inj (String.ofList_inj.mp same)).1
  obtain ⟨i, nan⟩ : d.toLower ≠ 'i' ∧ d.toLower ≠ 'n' :=
    forall_digit (P := fun d => d.toLower ≠ 'i' ∧ d.toLower ≠ 'n') (by decide) digit
  have unsigned : ofUnsignedText? false (d :: ds) = ofUnsigned? false (d :: ds) := by
    rw [ofUnsignedText?, if_neg (not_or.mpr ⟨noWord i, noWord i⟩), if_neg (noWord nan)]
  rw [ofText?, text]
  split
  · next same =>
      rw [(List.cons.inj same).1] at digit
      cases digit
  · next same =>
      rw [(List.cons.inj same).1] at digit
      cases digit
  · rw [unsigned, ← front, ofUnsigned?_toDigits]

/-! ### The nearest double of a whole number -/

lemma scaled_neg (n s : Nat) : scaled n (-(s : Int)) = (n, 2 ^ s) := by
  cases s with
  | zero => rfl
  | succ s =>
      rw [scaled, if_neg (by omega), Int.neg_neg, Int.toNat_natCast, Nat.one_shiftLeft]

lemma scaled_natCast (n s : Nat) : scaled n (s : Int) = (n * 2 ^ s, 1) := by
  rw [scaled, if_pos (Int.natCast_nonneg s), Int.toNat_natCast, Nat.shiftLeft_eq]

lemma le_roundDiv (n d : Nat) : n / d ≤ roundDiv n d := by
  rw [roundDiv]
  split_ifs <;> omega

/-- A number that is rounded to a multiple of another stays as it is exactly if it is one. -/
lemma roundDiv_mul_eq_self_iff {n d : Nat} (pos : 0 < d) : roundDiv n d * d = n ↔ d ∣ n := by
  constructor
  · intro same
    exact ⟨roundDiv n d, by rw [Nat.mul_comm, same]⟩
  · rintro ⟨q, rfl⟩
    have quotient : roundDiv (d * q) d = q := by
      rw [roundDiv, Nat.mul_mod_right, Nat.mul_div_cancel_left q pos, if_pos (by omega)]
    rw [quotient, Nat.mul_comm]

section whole

variable {n s : Nat} (bits : n.log2 = 52 + s)

include bits

lemma ne_zero_of_bits : n ≠ 0 := by
  rintro rfl
  rw [Nat.log2_zero] at bits
  omega

/-- A number of fifty-three bits and some more has fifty-three bits once these are cut off. -/
lemma div_bounds : 2 ^ 52 ≤ n / 2 ^ s ∧ n / 2 ^ s < 2 ^ 53 := by
  obtain ⟨low, high⟩ := (Nat.log2_eq_iff (ne_zero_of_bits bits)).mp bits
  constructor
  · rw [Nat.le_div_iff_mul_le (Nat.two_pow_pos s), ← Nat.pow_add]
    exact low
  · rw [Nat.div_lt_iff_lt_mul (Nat.two_pow_pos s), ← Nat.pow_add]
    calc n < 2 ^ (52 + s + 1) := high
      _ = 2 ^ (53 + s) := by rw [show 52 + s + 1 = 53 + s by omega]

/-- Its exponent counts the bits that are cut off. -/
lemma exponentOf_whole : exponentOf n 1 = s := by
  have guess : ((n.log2 : Int) - (1 : Nat).log2 - 52) = s := by
    rw [bits, show (1 : Nat).log2 = 0 from rfl]
    omega
  have enough : ¬ n / (1 * 2 ^ s) < fullMantissa := by
    rw [Nat.one_mul]
    exact Nat.not_lt.mpr (div_bounds bits).1
  rw [exponentOf, guess]
  simp only [scaled_neg, if_neg enough]
  exact max_eq_left (by rw [minExponent]; omega)

/-- The nearest double of a number of fifty-three bits or more. -/
lemma ofRatio_whole (finite : s < 971) :
    ofRatio false n 1
      = if roundDiv n (2 ^ s) = 2 ^ 53 then .finite false (2 ^ 52) (s + 1 : Nat)
        else .finite false (roundDiv n (2 ^ s)) s := by
  rw [ofRatio, if_neg (ne_zero_of_bits bits), exponentOf_whole bits]
  simp only [scaled_neg, Nat.one_mul]
  have full : 2 * fullMantissa = 2 ^ 53 := rfl
  rw [full]
  -- rounding up may carry into a further bit, which goes to the exponent
  split
  · exact if_neg (by simp only [maxExponent]; omega)
  · exact if_neg (by simp only [maxExponent]; omega)

lemma roundNat_eq : roundNat n = roundDiv n (2 ^ s) * 2 ^ s := by
  rw [roundNat, show n.log2 - 52 = s by omega, Nat.one_shiftLeft, Nat.shiftLeft_eq]

/-- The whole number that the nearest double stands for. -/
lemma toNatUpTo_ofRatio (finite : s < 971) (bound : Nat) :
    (ofRatio false n 1).toNatUpTo bound = min (roundNat n) bound := by
  have whole : ∀ m : Nat, (2 * m + 1) / (2 * 1) = m := by omega
  rw [ofRatio_whole bits finite, roundNat_eq bits]
  split
  · next carry =>
      simp only [toNatUpTo, Bool.false_eq_true, if_false, scaled_natCast, whole, carry]
      rw [show 2 ^ 52 * 2 ^ (s + 1) = 2 ^ 53 * 2 ^ s by ring]
  · simp only [toNatUpTo, Bool.false_eq_true, if_false, scaled_natCast, whole]

/-- A number of fifty-three bits or more is a double exactly if the bits that are cut off are
zero. -/
lemma roundNat_eq_self_iff : roundNat n = n ↔ 2 ^ s ∣ n := by
  rw [roundNat_eq bits]
  exact roundDiv_mul_eq_self_iff (Nat.two_pow_pos s)

lemma roundNat_pos : 0 < roundNat n := by
  have full : 0 < roundDiv n (2 ^ s) :=
    lt_of_lt_of_le (by decide) ((div_bounds bits).1.trans (le_roundDiv n (2 ^ s)))
  rw [roundNat_eq bits]
  exact Nat.mul_pos full (Nat.two_pow_pos s)

end whole

end Binary64

end TenantSettings.Number

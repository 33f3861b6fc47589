import TenantSettings.Proofs.Number.Whole
import TenantSettings.Properties.Sources

/-!
# What the text of a variable is taken for

A variable of the environment has a text, and its type is guessed from it: a truth value, an
integer, a float, and only then a text. What is converted back to the type of a property may differ
from what was put in.

* `Properties.Guess`: the guesses, each with the reason for it.
* `Properties.PrintsBack`: the texts that come back from a guess as they were;
  `Properties.printed_eq_self_iff`.
* `Properties.Holds`: the lengths that come back from their texts as they were;
  `Properties.carried_eq_self_iff`.
-/

namespace TenantSettings

/-! ### Blank texts -/

namespace Unicode

lemma isBlank_eq_false {s : String} {c : Char} (mem : c ∈ s.toList)
    (dark : isWhiteSpace c = false) : isBlank s = false := by
  rw [isBlank, List.all_eq_false]
  exact ⟨c, mem, by simp [dark]⟩

lemma isWhiteSpace_of_isDigit {c : Char} (digit : Number.isDigit c = true) :
    isWhiteSpace c = false :=
  Number.forall_digit (P := fun c => isWhiteSpace c = false) (by decide) digit

/-- A digit has no other case. -/
lemma toLowerChar_of_isDigit {c : Char} (digit : Number.isDigit c = true) :
    toLowerChar c = [c] ∧ c ≠ 'Σ' :=
  Number.forall_digit (P := fun c => toLowerChar c = [c] ∧ c ≠ 'Σ') (by decide +kernel) digit

end Unicode

namespace Properties

open Toml Number Unicode

/-! ### Guesses -/

/-- Whether a text is one of the words for truth values, in any case. -/
def IsWord (s : String) : Prop := toLower s = "true" ∨ toLower s = "false"

instance : DecidablePred IsWord := fun s =>
  inferInstanceAs (Decidable (toLower s = "true" ∨ toLower s = "false"))

/-- What a text is taken for: the first thing that it can be. -/
inductive Guess (s : String) : Value → Prop where
  | yes (word : toLower s = "true") : Guess s (.boolean true)
  | no (word : toLower s = "false") : Guess s (.boolean false)
  | integer {n : Int64} (plain : ¬ IsWord s) (read : int64? s = some n) : Guess s (.integer n.toInt)
  | float {x : Binary64} (plain : ¬ IsWord s) (noInteger : int64? s = none)
      (read : Binary64.ofText? s = some x) : Guess s (.float x)
  | text (plain : ¬ IsWord s) (noInteger : int64? s = none) (noFloat : Binary64.ofText? s = none) :
      Guess s (.text s)

/-- The value of a variable is such a guess. -/
lemma guess_variableValue (s : String) : Guess s (variableValue s) := by
  rw [variableValue]
  by_cases yes : toLower s = "true"
  · rw [if_pos yes]
    exact .yes yes
  rw [if_neg yes]
  by_cases no : toLower s = "false"
  · rw [if_pos no]
    exact .no no
  rw [if_neg no]
  have plain : ¬ IsWord s := not_or.mpr ⟨yes, no⟩
  cases read : int64? s with
  | some n => exact .integer plain read
  | none =>
      cases readToo : Binary64.ofText? s with
      | some x => exact .float plain read readToo
      | none => exact .text plain read readToo

/-! ### Texts -/

/-- What comes back of a text: the guess, printed. -/
def printed (s : String) : String := (toText? (variableValue s)).getD s

/-- A text that a guess prints as it was: as a word for a truth value it is in small letters, and as
a number it is written the way that numbers are printed. -/
structure PrintsBack (s : String) : Prop where
  yes : toLower s = "true" → s = "true"
  no : toLower s = "false" → s = "false"
  integer : ∀ n, int64? s = some n → s = toString n.toInt
  float : int64? s = none → ∀ x, Binary64.ofText? s = some x → s = x.toText

/-- A text that is no word and no number is printed as it was, as are the words in small letters. -/
lemma printsBack_of_text {s : String} (word : IsWord s → s = "true" ∨ s = "false")
    (noInteger : int64? s = none) (noFloat : Binary64.ofText? s = none) : PrintsBack s := by
  refine ⟨fun yes => ?_, fun no => ?_, fun n read => ?_, fun _ x read => ?_⟩
  · refine (word (.inl yes)).resolve_right ?_
    rintro rfl
    exact absurd yes (by decide +kernel)
  · refine (word (.inr no)).resolve_left ?_
    rintro rfl
    exact absurd no (by decide +kernel)
  · rw [noInteger] at read
    cases read
  · rw [noFloat] at read
    cases read

/-- A text comes back from whatever it is taken for. -/
lemma toText?_variableValue (s : String) : toText? (variableValue s) = some (printed s) := by
  have guess := guess_variableValue s
  rw [printed]
  generalize variableValue s = v at guess ⊢
  cases guess <;> rfl

/-- The texts that come back as they were. -/
lemma printed_eq_self_iff (s : String) : printed s = s ↔ PrintsBack s := by
  have guess := guess_variableValue s
  rw [printed]
  generalize variableValue s = v at guess ⊢
  constructor
  · intro same
    -- if the text comes back, the guess that it was taken for is the one that prints it
    cases guess with
    | yes =>
        have same : "true" = s := same
        exact same ▸ printsBack_of_text (fun _ => .inl rfl) rfl rfl
    | no =>
        have same : "false" = s := same
        exact same ▸ printsBack_of_text (fun _ => .inr rfl) rfl rfl
    | integer plain read =>
        refine ⟨fun yes => absurd (.inl yes) plain, fun no => absurd (.inr no) plain, ?_, ?_⟩
        · intro m readToo
          obtain rfl := Option.some.inj (read.symm.trans readToo)
          exact same.symm
        · intro noInteger
          rw [read] at noInteger
          cases noInteger
    | float plain noInteger read =>
        refine ⟨fun yes => absurd (.inl yes) plain, fun no => absurd (.inr no) plain, ?_, ?_⟩
        · intro m readToo
          rw [noInteger] at readToo
          cases readToo
        · intro _ y readToo
          obtain rfl := Option.some.inj (read.symm.trans readToo)
          exact same.symm
    | text plain noInteger noFloat =>
        exact printsBack_of_text (fun word => absurd word plain) noInteger noFloat
  · intro back
    cases guess with
    | yes word => exact (back.yes word).symm
    | no word => exact (back.no word).symm
    | integer _ read => exact (back.integer _ read).symm
    | float _ noInteger read => exact (back.float noInteger _ read).symm
    | text => rfl

/-! ### Texts that are not blank -/

lemma isBlank_toString (n : Int) : isBlank (toString n) = false := by
  have digits : ∀ m : Nat, ∃ c ∈ (toString m).toList, isDigit c = true := by
    intro m
    obtain ⟨d, ds, front, digit⟩ := exists_toDigits m
    have text : (toString m).toList = d :: ds := Nat.toList_repr.trans front
    exact ⟨d, text ▸ List.mem_cons_self, digit⟩
  cases n with
  | ofNat m =>
      obtain ⟨c, mem, digit⟩ := digits m
      exact isBlank_eq_false mem (isWhiteSpace_of_isDigit digit)
  | negSucc m =>
      have sign : (toString (Int.negSucc m)).toList = '-' :: (toString (m + 1)).toList := by
        show ("-" ++ toString (m + 1)).toList = _
        rw [String.toList_append]
        rfl
      exact isBlank_eq_false (c := '-') (sign ▸ List.mem_cons_self) (by decide)

/-- Digits with a point have a digit or the point. -/
lemma exists_dark_withPoint (digits places : Nat) :
    ∃ c ∈ Binary64.withPoint (Nat.toDigits 10 digits) places, isWhiteSpace c = false := by
  rw [Binary64.withPoint]
  split
  · obtain ⟨d, ds, front, digit⟩ := exists_toDigits digits
    exact ⟨d, front ▸ List.mem_cons_self, isWhiteSpace_of_isDigit digit⟩
  · exact ⟨'.', by simp, by decide⟩

lemma isBlank_toText (x : Binary64) : isBlank x.toText = false := by
  have dark {c : Char} {sign cs : List Char} (mem : c ∈ cs) (h : isWhiteSpace c = false) :
      isBlank (String.ofList (sign ++ cs)) = false :=
    isBlank_eq_false (by
      rw [String.toList_ofList]
      exact List.mem_append_right sign mem) h
  cases x with
  | nan => decide
  | infinite negative => cases negative <;> decide
  | finite negative m e =>
      rw [Binary64.toText]
      split
      · exact dark (c := '0') List.mem_cons_self (by decide)
      -- a whole number is printed as digits, any other one with a point at least
      · obtain ⟨digits, power⟩ := Binary64.shortest m e
        dsimp only
        by_cases whole : 0 ≤ power
        · obtain ⟨d, ds, front, digit⟩ := exists_toDigits digits
          rw [if_pos whole, front]
          exact dark (c := d) List.mem_cons_self (isWhiteSpace_of_isDigit digit)
        · obtain ⟨c, mem, h⟩ := exists_dark_withPoint digits (-power).toNat
          rw [if_neg whole]
          exact dark mem h

/-- A text that is not blank does not come back as a blank one. -/
lemma isBlank_printed {s : String} (dark : isBlank s = false) : isBlank (printed s) = false := by
  have guess := guess_variableValue s
  rw [printed]
  generalize variableValue s = v at guess ⊢
  cases guess with
  | yes => exact (by decide : isBlank "true" = false)
  | no => exact (by decide : isBlank "false" = false)
  | integer => exact isBlank_toString _
  | float => exact isBlank_toText _
  | text => exact dark

/-! ### Lengths -/

lemma not_isWord_toString (n : Nat) : ¬ IsWord (toString n) := by
  obtain ⟨d, ds, front, digit⟩ := exists_toDigits n
  have text : (toString n).toList = d :: ds := Nat.toList_repr.trans front
  obtain ⟨small, noSigma⟩ := toLowerChar_of_isDigit digit
  obtain ⟨cs, lower⟩ : ∃ cs, toLower (toString n) = String.ofList (d :: cs) := by
    rw [toLower, text, toLowerChars, toLowerFrom, if_neg noSigma, small]
    exact ⟨_, rfl⟩
  have starts : ∀ (c : Char) (word : List Char), toLower (toString n) = String.ofList (c :: word) →
      isDigit c = true := by
    intro c word same
    rw [lower, String.ofList_inj] at same
    exact (List.cons.inj same).1 ▸ digit
  rintro (yes | no)
  · exact absurd (starts 't' "rue".toList yes) (by decide)
  · exact absurd (starts 'f' "alse".toList no) (by decide)

/-- What comes back of a length: a long one by way of the nearest double, cut off at the greatest
word. -/
def carried (n : Nat) : Nat :=
  if n < 2 ^ 63 then n else min (Binary64.roundNat n) (wordBound - 1)

/-- A length that comes back from its text as it was: it is a signed integer of 64 bits or a double,
or else the greatest word, as the double nearest to it is cut off there. -/
def Holds (n : Nat) : Prop := n < 2 ^ 63 ∨ 2 ^ 11 ∣ n ∨ n + 1 = wordBound

instance : DecidablePred Holds := fun n =>
  inferInstanceAs (Decidable (n < 2 ^ 63 ∨ 2 ^ 11 ∣ n ∨ n + 1 = wordBound))

section length

variable {n : Nat} (long : ¬ n < 2 ^ 63) (word : n < wordBound)

include long word

lemma log2_of_word : n.log2 = 52 + 11 := by
  refine (Nat.log2_eq_iff (by omega)).mpr ⟨by omega, ?_⟩
  exact word

/-- A long length is read as a double, and this as a length again. -/
lemma toNatUpTo_ofDecimal :
    (Binary64.ofDecimal false n 0).toNatUpTo (wordBound - 1) = carried n := by
  have bits := log2_of_word long word
  have ratio : Binary64.ofDecimal false n 0 = Binary64.ofRatio false n 1 := by
    rw [Binary64.ofDecimal, if_neg (by omega), if_neg (by decide), if_pos le_rfl]
    exact congrArg (Binary64.ofRatio false · 1) (Nat.mul_one n)
  rw [ratio, Binary64.toNatUpTo_ofRatio bits (by decide), carried, if_neg long]

end length

/-- What comes back of a length. -/
lemma toNat?_variableValue {n : Nat} (word : n < wordBound) :
    toNat? (variableValue (toString n)) = some (carried n) := by
  have greatest : Int64.maxValue.toInt = 2 ^ 63 - 1 := by decide
  have read := int64?_toString n
  have readToo := Binary64.ofText?_toString n
  have guess := guess_variableValue (toString n)
  generalize variableValue (toString n) = v at guess ⊢
  -- digits are no word and always a double, so the guess is an integer or, if too long, a float
  cases guess with
  | yes yes => exact absurd (.inl yes) (not_isWord_toString n)
  | no no => exact absurd (.inr no) (not_isWord_toString n)
  | @integer m _ found =>
      rw [found] at read
      split at read
      · next short =>
          obtain rfl := Option.some.inj read
          have same : (Int64.ofInt n).toInt = n :=
            Int64.toInt_ofInt_of_le (by omega) (by omega)
          rw [toNat?, same, if_pos (Int.natCast_nonneg n), Int.toNat_natCast, carried,
            if_pos (by omega)]
      · cases read
  | float _ noInteger found =>
      rw [noInteger] at read
      split at read
      · cases read
      · next long =>
          obtain rfl := Option.some.inj (found.symm.trans readToo)
          rw [toNat?, toNatUpTo_ofDecimal (by omega) word]
  | text _ _ noFloat =>
      rw [noFloat] at readToo
      cases readToo

/-- A length that is not zero does not come back as zero. -/
lemma carried_ne_zero {n : Nat} (word : n < wordBound) (nonzero : n ≠ 0) : carried n ≠ 0 := by
  rw [carried]
  split
  · exact nonzero
  · next long =>
      have pos := Binary64.roundNat_pos (log2_of_word long word)
      exact Nat.ne_of_gt (lt_min pos (by decide))

/-- The lengths that come back as they were. -/
lemma carried_eq_self_iff {n : Nat} (word : n < wordBound) : carried n = n ↔ Holds n := by
  rw [carried, Holds]
  split
  · next short => exact ⟨fun _ => .inl short, fun _ => rfl⟩
  · next long =>
      have bits := log2_of_word long word
      rw [← Binary64.roundNat_eq_self_iff bits]
      constructor
      · intro same
        rcases min_choice (Binary64.roundNat n) (wordBound - 1) with near | cut
        · exact .inr (.inl (near ▸ same))
        -- only the greatest word is as great as the bound
        · exact .inr (.inr (by omega))
      · rintro (short | same | last)
        · exact absurd short long
        · rw [same]
          exact min_eq_left (by omega)
        · obtain rfl : n = wordBound - 1 := by omega
          decide +kernel

end Properties

end TenantSettings

import Mathlib.Data.Finset.NAry
import Mathlib.Data.Fintype.Card
import TenantSettings.Proofs.Profile.PasswordRules
import TenantSettings.Proofs.Reader.Contract
import TenantSettings.Proofs.Unicode.Letters
import TenantSettings.Store.Snapshot

/-!
# Passwords that a policy accepts

A policy is only refused for lengths that are out of order, so that its other rules may still leave
no password. What a password needs to have enough characters of every class is that the maximum
length leaves room for them, where a Roman numeral serves as a letter and as a number, and all else
goes apart. Where there is room, there are so many passwords to choose from that a list of texts
that are not allowed can only hold all of them if it is very long.

* `countP_add_countP_le_countP`, `PasswordPolicy.classMinimum_le`: classes without a common
  character take room for all of their characters.
* `Palette.spellings`: passwords that are put together from sixteen characters a place;
  `Palette.card_spellings` is how many there are, and `Palette.countP_of_mem` what is in them.
* `PasswordPolicy.exists_unlisted`: one of them is not on a list that is shorter.
* `PasswordPolicy.exists_accepted`: when a policy that is read accepts a password;
  `PasswordPolicy.accepts_nothing`, two that accept none.
-/

namespace TenantSettings

open Unicode

/-! ### The room that classes of characters take -/

/-- Two parts of a class that have nothing in common. -/
lemma countP_add_countP_le_countP {α : Type} {p q r : α → Bool}
    (apart : ∀ a, p a = true → q a = false) (hp : ∀ a, p a = true → r a = true)
    (hq : ∀ a, q a = true → r a = true) (l : List α) :
    l.countP p + l.countP q ≤ l.countP r := by
  induction l with
  | nil => simp
  | cons a rest ih =>
      simp only [List.countP_cons]
      cases inP : p a with
      | true =>
          simp only [apart a inP, hp a inP, if_true, Bool.false_eq_true, if_false]
          omega
      | false =>
          cases inQ : q a with
          | true =>
              simp only [hq a inQ, if_true, Bool.false_eq_true, if_false]
              omega
          | false =>
              simp only [Bool.false_eq_true, if_false]
              omega

namespace PasswordPolicy

/-- The fewest characters in which a password has enough of every class: a letter may be a number at
the same time, but nothing else is of two classes. -/
def classMinimum (p : PasswordPolicy) : Nat :=
  max (p.minimumUppercase + p.minimumLowercase) p.minimumNumeric + p.minimumSpecial

/-- A password that breaks no minimum of a class has room for all of them. -/
lemma classMinimum_le {p : PasswordPolicy} {password : String}
    (uppercase : ¬ Rule.uppercase.Broken p password)
    (lowercase : ¬ Rule.lowercase.Broken p password)
    (numeric : ¬ Rule.numeric.Broken p password)
    (special : ¬ Rule.special.Broken p password) :
    p.classMinimum ≤ password.toList.length := by
  -- capital and small letters share nothing, but both may be numbers; the rest is special
  have letters : password.toList.countP isUppercase + password.toList.countP isLowercase
      ≤ password.toList.countP isAlphanumeric :=
    countP_add_countP_le_countP (fun _ => isLowercase_eq_false_of_isUppercase)
      (fun _ => isAlphanumeric_of_isUppercase) (fun _ => isAlphanumeric_of_isLowercase) _
  have numbers : password.toList.countP isNumeric ≤ password.toList.countP isAlphanumeric :=
    List.countP_mono_left fun _ _ => isAlphanumeric_of_isNumeric
  have whole : password.toList.length
      = password.toList.countP isAlphanumeric + password.toList.countP isSpecial := by
    have other : (fun c => decide ¬ isAlphanumeric c = true) = isSpecial := by
      funext c
      simp [isSpecial]
    rw [List.length_eq_countP_add_countP isAlphanumeric, other]
  dsimp only [Rule.Broken] at uppercase lowercase numeric special
  rw [classMinimum]
  omega

end PasswordPolicy

/-! ### Passwords to choose from -/

/-- Sixteen characters that count alike: the capital and the small Roman numerals, which are letters
and numbers, and arrows, which are special. -/
inductive Palette where
  | capital | small | arrow
deriving DecidableEq

namespace Palette

/-- The first code point of a palette. -/
def first : Palette → Nat
  | capital => 0x2160
  | small => 0x2170
  | arrow => 0x2190

/-- The characters of a palette. -/
def char (k : Palette) (i : Fin 16) : Char := Char.ofNat (k.first + i)

lemma char_injective (k : Palette) : Function.Injective k.char := by
  cases k <;> decide

lemma isUppercase_char (k : Palette) (i : Fin 16) : isUppercase (k.char i) = (k == capital) := by
  revert i
  cases k <;> decide +kernel

lemma isLowercase_char (k : Palette) (i : Fin 16) : isLowercase (k.char i) = (k == small) := by
  revert i
  cases k <;> decide +kernel

lemma isNumeric_char (k : Palette) (i : Fin 16) : isNumeric (k.char i) = (k != arrow) := by
  revert i
  cases k <;> decide +kernel

lemma isSpecial_char (k : Palette) (i : Fin 16) :
    PasswordPolicy.isSpecial (k.char i) = (k == arrow) := by
  revert i
  cases k <;> decide +kernel

/-- The capital letters that are numbers are the ones of the palette. -/
lemma exists_char_eq {c : Char} (upper : isUppercase c = true) (numeric : isNumeric c = true) :
    ∃ i, capital.char i = c := by
  obtain ⟨low, high, -⟩ :=
    (Span.contains_iff _ _).mp (roman_of_isUppercase_of_isNumeric upper numeric)
  dsimp only [romanSpan] at low high
  refine ⟨⟨c.toNat - 0x2160, by omega⟩, ?_⟩
  have code : 0x2160 + (c.toNat - 0x2160) = c.toNat := by omega
  exact (congrArg Char.ofNat code).trans c.ofNat_toNat

/-- No character of a palette is an ASCII letter. -/
lemma asciiLower_char (k : Palette) (i : Fin 16) : asciiLower (k.char i) = k.char i := by
  revert i
  cases k <;> decide

/-- The texts that take their characters from some palettes, place by place. -/
def spellings : List Palette → Finset (List Char)
  | [] => {[]}
  | k :: rest => Finset.image₂ (fun i w => k.char i :: w) Finset.univ (spellings rest)

lemma card_spellings (ks : List Palette) : (spellings ks).card = 16 ^ ks.length := by
  induction ks with
  | nil => rfl
  | cons k rest ih =>
      have distinct : Function.Injective2 fun i w => k.char i :: w := by
        intro i j v w same
        obtain ⟨head, tail⟩ := List.cons.inj same
        exact ⟨k.char_injective head, tail⟩
      rw [spellings, Finset.card_image₂ distinct, Finset.card_univ, Fintype.card_fin, ih,
        List.length_cons, pow_succ']

/-- What only depends on the palette of a character is counted in the palettes. -/
lemma countP_of_mem {q : Char → Bool} {kind : Palette → Bool}
    (h : ∀ k i, q (Palette.char k i) = kind k) {ks : List Palette} {w : List Char}
    (mem : w ∈ spellings ks) : w.countP q = ks.countP kind := by
  induction ks generalizing w with
  | nil =>
      obtain rfl := Finset.mem_singleton.mp mem
      rfl
  | cons k rest ih =>
      obtain ⟨i, -, v, later, rfl⟩ := Finset.mem_image₂.mp mem
      rw [List.countP_cons, List.countP_cons, ih later, h]

lemma length_of_mem {ks : List Palette} {w : List Char} (mem : w ∈ spellings ks) :
    w.length = ks.length := by
  have all : w.countP (fun _ => true) = ks.countP fun _ => true :=
    countP_of_mem (fun _ _ => rfl) mem
  simpa using all

lemma map_asciiLower_of_mem {ks : List Palette} {w : List Char} (mem : w ∈ spellings ks) :
    w.map asciiLower = w := by
  induction ks generalizing w with
  | nil =>
      obtain rfl := Finset.mem_singleton.mp mem
      rfl
  | cons k rest ih =>
      obtain ⟨i, -, v, later, rfl⟩ := Finset.mem_image₂.mp mem
      rw [List.map_cons, ih later, asciiLower_char]

end Palette

namespace PasswordPolicy

open Palette

/-- A list of texts that are not allowed leaves a spelling if it is shorter than there are
spellings. -/
lemma exists_unlisted {p : PasswordPolicy} {ks : List Palette}
    (few : p.disallowedValues.length < 16 ^ ks.length) :
    ∃ w ∈ spellings ks, ¬ Rule.disallowed.Broken p (String.ofList w) := by
  have fewer : (p.disallowedValues.map fun text => text.toList.map asciiLower).toFinset.card
      < (spellings ks).card := by
    rw [card_spellings]
    exact (List.toFinset_card_le _).trans_lt (by rwa [List.length_map])
  obtain ⟨w, mem, new⟩ := Finset.exists_mem_notMem_of_card_lt_card fewer
  refine ⟨w, mem, ?_⟩
  rintro ⟨text, listed, same⟩
  refine new (List.mem_toFinset.mpr (List.mem_map.mpr ⟨text, listed, ?_⟩))
  rw [eqIgnoreAsciiCase, beq_iff_eq, String.toList_ofList, map_asciiLower_of_mem mem] at same
  exact same

/-- The palettes of a password of some length: small letters and special characters as they are
asked for, and capital letters. -/
def pattern (p : PasswordPolicy) (length : Nat) : List Palette :=
  List.replicate (length - p.minimumLowercase - p.minimumSpecial) .capital
    ++ List.replicate p.minimumLowercase .small ++ List.replicate p.minimumSpecial .arrow

section pattern

variable {p : PasswordPolicy} {length : Nat} (room : p.classMinimum ≤ length)

include room

lemma length_pattern : (p.pattern length).length = length := by
  rw [classMinimum] at room
  simp only [pattern, List.length_append, List.length_replicate]
  omega

/-- A spelling of a length that is admitted and has room for all classes breaks no rule, unless it
is one of the texts that are not allowed. -/
lemma eq_disallowed_of_broken (long : p.minimumLength ≤ length)
    (short : p.maximumLength = 0 ∨ length ≤ p.maximumLength) {w : List Char}
    (mem : w ∈ spellings (p.pattern length)) {rule : Rule}
    (broken : rule.Broken p (String.ofList w)) : rule = .disallowed := by
  have size : w.length = length := (length_of_mem mem).trans (length_pattern room)
  have capitals : w.countP isUppercase = length - p.minimumLowercase - p.minimumSpecial := by
    simpa [pattern, List.countP_replicate] using countP_of_mem isUppercase_char mem
  have smalls : w.countP isLowercase = p.minimumLowercase := by
    simpa [pattern, List.countP_replicate] using countP_of_mem isLowercase_char mem
  have numbers : w.countP isNumeric
      = length - p.minimumLowercase - p.minimumSpecial + p.minimumLowercase := by
    simpa [pattern, List.countP_replicate] using countP_of_mem isNumeric_char mem
  have specials : w.countP isSpecial = p.minimumSpecial := by
    simpa [pattern, List.countP_replicate] using countP_of_mem isSpecial_char mem
  -- with all counts known, a rule but the last one is broken by arithmetic alone
  rw [classMinimum] at room
  cases rule with
  | disallowed => rfl
  | _ =>
      dsimp only [Rule.Broken] at broken
      rw [String.toList_ofList] at broken
      omega

end pattern

/-- The lengths of a policy that is read are in order. -/
lemma meets_lengths {store : Store} (r : Reader) (locale : Locale) :
    Read.Meets store (fun p => p.maximumLength = 0 ∨ p.minimumLength ≤ p.maximumLength)
      (fun _ => True) (PasswordPolicy.read r locale) := by
  refine .after fun minimum => .after fun maximum => .ite (fun _ => r.meets_fault _ trivial)
    fun inOrder => ?_
  have order : maximum = 0 ∨ minimum ≤ maximum := by omega
  exact .after fun _ => .after fun _ => .after fun _ => .after fun _ => .after fun _ =>
    .after fun _ => .after fun _ => .pure order

/-- A policy with its lengths in order that has room for all classes in `length` characters accepts
a password of that length, if the texts that are not allowed are fewer than the passwords to choose
from. -/
lemma exists_check_eq_nil {p : PasswordPolicy} (length : Nat) (room : p.classMinimum ≤ length)
    (long : p.minimumLength ≤ length) (short : p.maximumLength = 0 ∨ length ≤ p.maximumLength)
    (few : p.disallowedValues.length < 16 ^ length) : ∃ password, p.check password = [] := by
  rw [← length_pattern room] at few
  obtain ⟨w, mem, free⟩ := exists_unlisted few
  refine ⟨String.ofList w, check_eq_nil_iff.mpr fun rule broken => free ?_⟩
  exact eq_disallowed_of_broken room long short mem broken ▸ broken

/-- Whatever is stored, for every policy that is read, in any locale: some password breaks no rule,
but for being one of the texts that are not allowed, exactly if there is no maximum length or it has
room for the minimums of the classes. Without a maximum length some password breaks no rule at all;
and so it is where there is room, unless at least `16 ^ maximumLength` texts are not allowed. -/
theorem exists_accepted {store : Store} {r : Reader} {locale : Locale} {p : PasswordPolicy}
    (accepted : (PasswordPolicy.read r locale).result store = .ok p) :
    ((∃ password, ∀ v ∈ p.check password, v = .disallowed)
        ↔ p.maximumLength = 0 ∨ p.classMinimum ≤ p.maximumLength)
      ∧ (p.maximumLength = 0 → ∃ password, p.check password = [])
      ∧ (p.classMinimum ≤ p.maximumLength →
          p.disallowedValues.length < 16 ^ p.maximumLength →
          ∃ password, p.check password = []) := by
  have inOrder : p.maximumLength = 0 ∨ p.minimumLength ≤ p.maximumLength :=
    (meets_lengths r locale).yields accepted
  have unbounded : p.maximumLength = 0 → ∃ password, p.check password = [] := by
    intro unlimited
    -- a length beyond which there are more spellings than texts that are not allowed
    refine exists_check_eq_nil (p.classMinimum + p.minimumLength + p.disallowedValues.length)
      (by omega) (by omega) (.inl unlimited) ?_
    calc p.disallowedValues.length
        < 16 ^ p.disallowedValues.length := Nat.lt_pow_self (by omega)
      _ ≤ 16 ^ (p.classMinimum + p.minimumLength + p.disallowedValues.length) :=
        Nat.pow_le_pow_right (by omega) (by omega)
  refine ⟨⟨?_, ?_⟩, unbounded, fun room few => ?_⟩
  · rintro ⟨password, only⟩
    -- a password that breaks no other rule meets the counts within the maximum
    have kept : ∀ rule : Rule, rule ≠ .disallowed → ¬ rule.Broken p password := by
      intro rule other broken
      have reported := only _ (mem_check_iff.mpr ⟨rule, broken, rfl⟩)
      cases rule <;> first | exact other rfl | cases reported
    have room : p.classMinimum ≤ password.toList.length :=
      classMinimum_le (kept _ (by decide)) (kept _ (by decide)) (kept _ (by decide))
        (kept _ (by decide))
    have short : ¬ (0 < p.maximumLength ∧ p.maximumLength < password.toList.length) :=
      kept .maximum (by decide)
    omega
  · intro fits
    by_cases unlimited : p.maximumLength = 0
    · obtain ⟨password, passes⟩ := unbounded unlimited
      exact ⟨password, by simp [passes]⟩
    · have room : p.classMinimum ≤ p.maximumLength := fits.resolve_left unlimited
      have long : p.minimumLength ≤ p.maximumLength := inOrder.resolve_left unlimited
      -- any spelling of the pattern will do, as long as the list of texts is left aside
      obtain ⟨w, mem⟩ : (spellings (p.pattern p.maximumLength)).Nonempty := by
        rw [← Finset.card_pos, card_spellings]
        exact Nat.pow_pos (by omega)
      refine ⟨String.ofList w, fun v reported => ?_⟩
      obtain ⟨rule, broken, rfl⟩ := mem_check_iff.mp reported
      rw [eq_disallowed_of_broken room long (.inr le_rfl) mem broken]
      rfl
  · rcases inOrder with unlimited | long
    · exact unbounded unlimited
    · exact exists_check_eq_nil p.maximumLength room long (.inr le_rfl) few

/-- A policy that asks for characters of three classes in three places, one of which has to be a
letter and a number, and disallows a few of the passwords that it leaves. -/
theorem exists_accepted_three_places :
    let steps : List Snapshot.Step :=
      [.profileValue Schema.passwordPolicyMaximumLength "corp" (.number 3),
        .profileValue Schema.passwordPolicyMinimumUppercase "corp" (.number 1),
        .profileValue Schema.passwordPolicyMinimumNumeric "corp" (.number 2),
        .profileValue Schema.passwordPolicyMinimumSpecial "corp" (.number 1),
        .profileValue Schema.passwordPolicyDisallowedValues "corp" (.texts ["ⅠⅠ!", "Ⅳ1!"])]
    ∃ s, Snapshot.build steps = .ok s
      ∧ ∃ p, (PasswordPolicy.read ⟨"example.org", some "corp"⟩ .root).result s.store = .ok p
        ∧ p.classMinimum = p.maximumLength ∧ ∃ password, p.check password = [] := by
  intro steps
  have built : Snapshot.build steps = .ok (steps.foldl Snapshot.apply .empty) := rfl
  obtain ⟨p, accepted, room, few⟩ : ∃ p,
      (PasswordPolicy.read ⟨"example.org", some "corp"⟩ .root).result
        (steps.foldl Snapshot.apply .empty).store = .ok p
      ∧ p.classMinimum = p.maximumLength
      ∧ p.disallowedValues.length < 16 ^ p.maximumLength := ⟨_, rfl, rfl, by decide⟩
  exact ⟨_, built, p, accepted, room, (exists_accepted accepted).2.2 room.le few⟩

/-- The texts of one capital Roman numeral. -/
def numeralTexts : List String :=
  ["Ⅰ", "Ⅱ", "Ⅲ", "Ⅳ", "Ⅴ", "Ⅵ", "Ⅶ", "Ⅷ", "Ⅸ", "Ⅹ", "Ⅺ", "Ⅻ", "Ⅼ", "Ⅽ", "Ⅾ", "Ⅿ"]

/-- A policy of one place for a capital and a small letter, and one for a capital letter that is a
number, where none of these is allowed. -/
theorem accepts_nothing :
    let letters : List Snapshot.Step :=
      [.profileValue Schema.passwordPolicyMinimumLength "corp" (.number 1),
        .profileValue Schema.passwordPolicyMaximumLength "corp" (.number 1),
        .profileValue Schema.passwordPolicyMinimumUppercase "corp" (.number 1),
        .profileValue Schema.passwordPolicyMinimumLowercase "corp" (.number 1)]
    let numerals : List Snapshot.Step :=
      [.profileValue Schema.passwordPolicyMinimumLength "corp" (.number 1),
        .profileValue Schema.passwordPolicyMaximumLength "corp" (.number 1),
        .profileValue Schema.passwordPolicyMinimumUppercase "corp" (.number 1),
        .profileValue Schema.passwordPolicyMinimumNumeric "corp" (.number 1),
        .profileValue Schema.passwordPolicyDisallowedValues "corp" (.texts numeralTexts)]
    (∃ s, Snapshot.build letters = .ok s
        ∧ ∃ p, (PasswordPolicy.read ⟨"example.org", some "corp"⟩ .root).result s.store = .ok p
          ∧ ∀ password, p.check password ≠ [])
      ∧ ∃ s, Snapshot.build numerals = .ok s
        ∧ ∃ p, (PasswordPolicy.read ⟨"example.org", some "corp"⟩ .root).result s.store = .ok p
          ∧ ∀ password, p.check password ≠ [] := by
  intro letters numerals
  refine ⟨⟨_, rfl, ⟨"corp", .root, [], 1, 1, 1, 1, 0, 0, [], ""⟩, rfl, fun password passes => ?_⟩,
    _, rfl, ⟨"corp", .root, [], 1, 1, 1, 0, 1, 0, numeralTexts, ""⟩, rfl, fun password passes => ?_⟩
  -- two classes ask for two characters, and there is room for one
  · have kept := check_eq_nil_iff.mp passes
    have two : 2 ≤ password.toList.length :=
      classMinimum_le (kept .uppercase) (kept .lowercase) (kept .numeric) (kept .special)
    have short : ¬ (0 < 1 ∧ 1 < password.toList.length) := kept .maximum
    omega
  · have kept := check_eq_nil_iff.mp passes
    have long : ¬ password.toList.length < 1 := kept .minimum
    have short : ¬ (0 < 1 ∧ 1 < password.toList.length) := kept .maximum
    obtain ⟨c, only⟩ := List.length_eq_one_iff.mp (show password.toList.length = 1 by omega)
    have upper : ¬ password.toList.countP isUppercase < 1 := kept .uppercase
    have numeric : ¬ password.toList.countP isNumeric < 1 := kept .numeric
    rw [only, List.countP_singleton] at upper numeric
    -- a letter that is capital and a number is one of the numerals, which are all listed
    obtain ⟨i, rfl⟩ : ∃ i, Palette.capital.char i = c :=
      Palette.exists_char_eq (by simpa using upper) (by simpa using numeric)
    refine kept .disallowed ⟨password, ?_, by simp [eqIgnoreAsciiCase]⟩
    have listed : ∀ i, String.ofList [Palette.capital.char i] ∈ numeralTexts := by decide
    rw [← String.ofList_toList (s := password), only]
    exact listed i

end PasswordPolicy

end TenantSettings

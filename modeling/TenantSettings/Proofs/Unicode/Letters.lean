import TenantSettings.Proofs.Unicode.Case
import TenantSettings.Unicode.Letters

/-!
# How the classes of characters lie to each other

Capital and small letters are different characters, and all of them are alphabetic. Some letters are
numbers at the same time; of the capital ones these are the Roman numerals.

* `Span.within`, `Span.coveredBy`: tests that the code points of a span lie in another span or in a
  class, with `Span.any_contains_of_coveredBy`.
* `member_eq_false_of_apart`, `member_of_covered`: classes without a common character, and a class
  that contains another one, decided from their spans.
* `isLowercase_eq_false_of_isUppercase`, `isAlphanumeric_of_isUppercase`,
  `isAlphanumeric_of_isLowercase`, `isAlphanumeric_of_isNumeric`: what follows for the classes.
* `roman_of_isUppercase_of_isNumeric`: the capital letters that are numbers.
-/

namespace TenantSettings.Unicode

/-! ### Spans within others -/

namespace Span

/-- Whether a span is seen to lie within another one: it neither ends after it nor starts before it,
and it only meets code points on the other one's progression. -/
def within (a b : Span) : Bool :=
  Nat.ble a.last b.last && (Nat.ble b.first a.first
    && (Nat.beq ((a.first - b.first) % b.step) 0 && Nat.beq (a.step % b.step) 0))

/-- Whether the code points of a span are seen to lie in a class: the span lies within one of the
class, or its code points are found there one by one. -/
def coveredBy (spans : List Span) (a : Span) : Bool :=
  spans.any a.within || (List.range (a.last + 1 - a.first)).all fun k =>
    !a.contains (a.first + k) || spans.any (·.contains (a.first + k))

variable {a b : Span} {n : Nat}

lemma contains_of_within (h : a.within b = true) (inside : a.contains n = true) :
    b.contains n = true := by
  simp only [within, Bool.and_eq_true, Nat.ble_eq, Nat.beq_eq] at h
  obtain ⟨high, low, start, step⟩ := h
  obtain ⟨low', high', steps⟩ := (contains_iff a n).mp inside
  refine (contains_iff b n).mpr ⟨by omega, by omega, Nat.mod_eq_zero_of_dvd ?_⟩
  have far : b.step ∣ n - a.first :=
    (Nat.dvd_of_mod_eq_zero step).trans (Nat.dvd_of_mod_eq_zero steps)
  have whole : n - b.first = (n - a.first) + (a.first - b.first) := by omega
  rw [whole]
  exact Nat.dvd_add far (Nat.dvd_of_mod_eq_zero start)

lemma any_contains_of_coveredBy {spans : List Span} (h : a.coveredBy spans = true)
    (inside : a.contains n = true) : spans.any (·.contains n) = true := by
  rcases Bool.or_eq_true_iff.mp h with one | each
  · obtain ⟨b, mem, within⟩ := List.any_eq_true.mp one
    exact List.any_eq_true.mpr ⟨b, mem, contains_of_within within inside⟩
  · obtain ⟨low, high, -⟩ := (contains_iff a n).mp inside
    have here := List.all_eq_true.mp each (n - a.first) (List.mem_range.mpr (by omega))
    rw [show a.first + (n - a.first) = n by omega, inside] at here
    exact here

end Span

/-! ### Classes -/

section classes

variable {spans others : List Span} {c : Char}

/-- Classes all of whose spans are apart have no character in common. -/
lemma member_eq_false_of_apart (h : (spans.all fun a => others.all a.apart) = true)
    (mem : member spans c = true) : member others c = false := by
  obtain ⟨a, ha, inside⟩ := List.any_eq_true.mp mem
  refine List.any_eq_false.mpr fun b hb => ?_
  have apart := List.all_eq_true.mp (List.all_eq_true.mp h a ha) b hb
  rw [Span.contains_eq_false_of_apart apart inside]
  exact Bool.false_ne_true

/-- A class whose spans are covered by another class is part of it. -/
lemma member_of_covered (h : spans.all (Span.coveredBy others) = true)
    (mem : member spans c = true) : member others c = true := by
  obtain ⟨a, ha, inside⟩ := List.any_eq_true.mp mem
  exact Span.any_contains_of_coveredBy (List.all_eq_true.mp h a ha) inside

end classes

section letters

variable {c : Char}

/-- No capital letter is a small letter. -/
theorem isLowercase_eq_false_of_isUppercase (upper : isUppercase c = true) :
    isLowercase c = false :=
  member_eq_false_of_apart (by decide +kernel) upper

/-- Capital letters are alphabetic, -/
theorem isAlphanumeric_of_isUppercase (upper : isUppercase c = true) :
    isAlphanumeric c = true := by
  have alphabetic : isAlphabetic c = true := member_of_covered (by decide +kernel) upper
  rw [isAlphanumeric, alphabetic, Bool.true_or]

/-- and small letters are. -/
theorem isAlphanumeric_of_isLowercase (lower : isLowercase c = true) :
    isAlphanumeric c = true := by
  have alphabetic : isAlphabetic c = true := member_of_covered (by decide +kernel) lower
  rw [isAlphanumeric, alphabetic, Bool.true_or]

theorem isAlphanumeric_of_isNumeric (numeric : isNumeric c = true) : isAlphanumeric c = true := by
  rw [isAlphanumeric, numeric, Bool.or_true]

/-- The capital Roman numerals. -/
def romanSpan : Span := ⟨0x2160, 0x216F, 1⟩

/-- A capital letter that is a number is a Roman numeral. -/
theorem roman_of_isUppercase_of_isNumeric (upper : isUppercase c = true)
    (numeric : isNumeric c = true) : romanSpan.contains c.toNat = true := by
  have other : (uppercaseSpans.all fun a => a == romanSpan || numericSpans.all a.apart) = true := by
    decide +kernel
  obtain ⟨a, ha, inside⟩ := List.any_eq_true.mp upper
  rcases Bool.or_eq_true_iff.mp (List.all_eq_true.mp other a ha) with roman | apart
  · rwa [beq_iff_eq.mp roman] at inside
  · obtain ⟨b, hb, inside'⟩ := List.any_eq_true.mp numeric
    rw [Span.contains_eq_false_of_apart (List.all_eq_true.mp apart b hb) inside] at inside'
    cases inside'

end letters

end TenantSettings.Unicode

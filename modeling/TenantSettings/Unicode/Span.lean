/-!
# Spans of code points

A class of characters is a list of spans, each an arithmetic progression of code points.  The two
case alphabets alternate over long stretches, so a span carries its step.

* `Span.contains_iff`: membership in a span, in arithmetic terms.
-/

namespace TenantSettings.Unicode

/-- The code points `first`, `first + step`, ... up to `last`. -/
structure Span where
  first : Nat
  last : Nat
  step : Nat
deriving DecidableEq, Repr

/-- Whether a code point lies on the progression. -/
def Span.contains (s : Span) (n : Nat) : Bool :=
  s.first ≤ n && n ≤ s.last && (n - s.first) % s.step == 0

/-- Membership in a span, in arithmetic terms. -/
theorem Span.contains_iff (s : Span) (n : Nat) :
    s.contains n = true ↔ s.first ≤ n ∧ n ≤ s.last ∧ (n - s.first) % s.step = 0 := by
  simp [Span.contains, and_assoc]

/-- Whether a character belongs to a class given by its spans. -/
def member (spans : List Span) (c : Char) : Bool :=
  spans.any (·.contains c.toNat)

end TenantSettings.Unicode

import Mathlib.Data.List.Basic
import Mathlib.Data.Nat.ModEq
import Mathlib.Tactic.Lemma
import TenantSettings.Unicode.Blank
import TenantSettings.Unicode.Case

/-!
# What a change of case keeps

The case tables move no letter to a place from which it would move again, so a text that is in small
letters stays as it is when its small form is taken, and a text in capitals when its capital form
is. Classes that no letter of the tables enters or leaves, such as white space, are kept character
by character, although one character may become several.

* `Span.apart`: a test that two spans have no code point in common, and
  `Span.contains_eq_false_of_apart`, what it shows.
* `CaseTable.codes_of_fixes`, `CaseTable.mem_codes`: which code points a table moves, and where to;
  `CaseTable.Settled`: where they go they stay.
* `toLowerChars_toLowerChars`, `toUpperChars_toUpperChars`: a second change of case does nothing.
* `Caseless`: classes that a change of case keeps; `Recased`: what it does to a text, as far as such
  a class tells, by `recased_toLowerChars` and `recased_toUpperChars`.
* `toLowerChars_of_ascii`, `toUpperChars_of_ascii`: ASCII letters change one by one.
-/

namespace TenantSettings.Unicode

/-! ### Spans without a common code point -/

namespace Span

/-- The span of one code point. -/
def single (n : Nat) : Span := ⟨n, n, 1⟩

/-- The distance of neighbours in a span, zero where there are none. -/
def period (s : Span) : Nat := if s.first = s.last then 0 else s.step

/-- Whether two spans are seen to have no code point in common: one of them ends before the other
starts, or they leave different remainders for all that their periods have in common. -/
def apart (a b : Span) : Bool :=
  Nat.blt a.last b.first || (Nat.blt b.last a.first
    || !Nat.beq (a.first % Nat.gcd a.period b.period) (b.first % Nat.gcd a.period b.period))

variable {a b : Span} {n : Nat}

lemma contains_single {m : Nat} : (single m).contains n = true ↔ n = m := by
  rw [contains_iff]
  simp only [single, Nat.mod_one, and_true]
  omega

/-- The code points of a span leave one remainder. -/
lemma modEq_of_contains (inside : a.contains n = true) : n ≡ a.first [MOD a.period] := by
  obtain ⟨low, high, steps⟩ := (contains_iff a n).mp inside
  rw [period]
  split
  · have only : n = a.first := by omega
    rw [only]
  · exact ((Nat.modEq_iff_dvd' low).mpr (Nat.dvd_of_mod_eq_zero steps)).symm

/-- Spans that pass the test have no code point in common. -/
lemma contains_eq_false_of_apart (h : a.apart b = true) (inside : a.contains n = true) :
    b.contains n = false := by
  by_contra meet
  rw [Bool.not_eq_false] at meet
  obtain ⟨low, high, -⟩ := (contains_iff a n).mp inside
  obtain ⟨low', high', -⟩ := (contains_iff b n).mp meet
  have same : a.first ≡ b.first [MOD Nat.gcd a.period b.period] :=
    ((modEq_of_contains inside).of_dvd (Nat.gcd_dvd_left _ _)).symm.trans
      ((modEq_of_contains meet).of_dvd (Nat.gcd_dvd_right _ _))
  rw [apart, Bool.or_eq_true, Bool.or_eq_true, Nat.blt_eq, Nat.blt_eq] at h
  rcases h with before | behind | differ
  · omega
  · omega
  · rw [Bool.not_eq_true', ← Bool.not_eq_true, Nat.beq_eq] at differ
    exact differ same

end Span

/-! ### The tables -/

/-- Where the code points of a shift go. -/
def Shift.target (s : Shift) : Span :=
  ⟨(s.span.first + s.distance).toNat, (s.span.last + s.distance).toNat, s.span.step⟩

/-- Whether a shift does not lead out of the characters. -/
def Shift.lands (s : Shift) : Bool :=
  0 ≤ s.span.first + s.distance
    && (s.target.last < 0xD800 || (0xDFFF < s.target.first && s.target.last < 0x110000))

/-- A shift leads to its target. -/
lemma Shift.contains_target {s : Shift} (h : s.lands = true) {n : Nat}
    (inside : s.span.contains n = true) : s.target.contains (n + s.distance).toNat = true := by
  obtain ⟨low, high, steps⟩ := (Span.contains_iff _ n).mp inside
  rw [Shift.lands, Bool.and_eq_true, decide_eq_true_iff] at h
  have shifted : (n + s.distance).toNat - (s.span.first + s.distance).toNat = n - s.span.first := by
    omega
  refine (Span.contains_iff _ _).mpr ⟨?_, ?_, ?_⟩
  · show (s.span.first + s.distance).toNat ≤ _
    omega
  · show _ ≤ (s.span.last + s.distance).toNat
    omega
  · show ((n + s.distance).toNat - (s.span.first + s.distance).toNat) % s.span.step = 0
    rw [shifted, steps]

/-- The letters that change, those that become several characters and those that move. -/
structure CaseTable where
  expansions : List (Nat × List Nat)
  shifts : List Shift

namespace CaseTable

/-- The table of small forms. -/
def lower : CaseTable := ⟨lowerExpansions, lowerShifts⟩

/-- The table of capital forms. -/
def upper : CaseTable := ⟨upperExpansions, upperShifts⟩

variable (t : CaseTable)

/-- What a code point becomes. -/
def codes (n : Nat) : List Nat := mapCode t.expansions t.shifts n

/-- What a character becomes. -/
def chars (c : Char) : List Char := (t.codes c.toNat).map Char.ofNat

/-- Whether no code point of a span changes. -/
def fixes (a : Span) : Bool :=
  t.shifts.all (fun s => a.apart s.span) && t.expansions.all fun e => a.apart (.single e.1)

/-- Whether no code point that changes becomes one of a span. -/
def avoids (a : Span) : Bool :=
  t.shifts.all (fun s => a.apart s.target)
    && t.expansions.all fun e => e.2.all fun n => a.apart (.single n)

/-- Every code point that changes becomes a character, and one that does not change again. -/
structure Settled : Prop where
  lands : t.shifts.all Shift.lands = true
  valid : ∀ e ∈ t.expansions, ∀ n ∈ e.2, n.isValidChar
  full : ∀ e ∈ t.expansions, e.2 ≠ []
  shifted : t.shifts.all (fun s => t.fixes s.target) = true
  expanded : t.expansions.all (fun e => e.2.all fun n => t.fixes (.single n)) = true

instance : Decidable t.Settled :=
  decidable_of_iff
    (t.shifts.all Shift.lands = true ∧ (∀ e ∈ t.expansions, ∀ n ∈ e.2, n.isValidChar)
      ∧ (∀ e ∈ t.expansions, e.2 ≠ []) ∧ t.shifts.all (fun s => t.fixes s.target) = true
      ∧ t.expansions.all (fun e => e.2.all fun n => t.fixes (.single n)) = true)
    ⟨fun h => ⟨h.1, h.2.1, h.2.2.1, h.2.2.2.1, h.2.2.2.2⟩,
      fun h => ⟨h.lands, h.valid, h.full, h.shifted, h.expanded⟩⟩

variable {t} {n m : Nat}

/-- A code point of a span without changes stays as it is. -/
lemma codes_of_fixes {a : Span} (h : t.fixes a = true) (inside : a.contains n = true) :
    t.codes n = [n] := by
  rw [fixes, Bool.and_eq_true, List.all_eq_true, List.all_eq_true] at h
  have one : t.expansions.lookup n = none := by
    refine List.lookup_eq_none_iff.mpr fun e he => ?_
    have other := Span.contains_eq_false_of_apart (h.2 e he) inside
    rw [← Bool.not_eq_true, Span.contains_single] at other
    simpa using other
  have still : t.shifts.find? (·.span.contains n) = none := by
    refine List.find?_eq_none.mpr fun s hs => ?_
    rw [Span.contains_eq_false_of_apart (h.1 s hs) inside]
    exact Bool.false_ne_true
  rw [codes, mapCode, one, still]

/-- A character of a span without changes stays as it is. -/
lemma chars_of_fixes {a : Span} (h : t.fixes a = true) {c : Char}
    (inside : a.contains c.toNat = true) : t.chars c = [c] := by
  rw [chars, codes_of_fixes h inside, List.map_singleton, Char.ofNat_toNat]

/-- What a code point becomes: itself, several others, or the one that it moves to. -/
lemma mem_codes (h : m ∈ t.codes n) :
    (t.codes n = [n] ∧ m = n) ∨ (∃ e ∈ t.expansions, e.1 = n ∧ m ∈ e.2)
      ∨ ∃ s ∈ t.shifts, s.span.contains n = true ∧ m = (n + s.distance).toNat := by
  rw [codes, mapCode] at h ⊢
  -- the table looks for expansions before it looks for shifts
  cases several : t.expansions.lookup n with
  | some image =>
      rw [several] at h
      obtain ⟨before, after, expansions, -⟩ := List.lookup_eq_some_iff.mp several
      exact .inr (.inl ⟨(n, image), by simp [expansions], rfl, h⟩)
  | none =>
      rw [several] at h
      cases found : t.shifts.find? (·.span.contains n) with
      | some s =>
          rw [found] at h
          have inside : s.span.contains n = true := by
            simpa using List.find?_some found
          exact .inr (.inr ⟨s, List.mem_of_find?_eq_some found, inside, List.mem_singleton.mp h⟩)
      | none =>
          rw [found] at h
          exact .inl ⟨rfl, List.mem_singleton.mp h⟩

/-- What a code point becomes does not change again, and it is a character if the code point is. -/
lemma codes_of_mem_codes (h : t.Settled) (mem : m ∈ t.codes n) :
    t.codes m = [m] ∧ (n.isValidChar → m.isValidChar) := by
  -- each way to change ends in a span that the table keeps
  rcases mem_codes mem with ⟨still, rfl⟩ | ⟨e, he, -, image⟩ | ⟨s, hs, inside, rfl⟩
  · exact ⟨still, id⟩
  · have fixed := List.all_eq_true.mp (List.all_eq_true.mp h.expanded e he) m image
    exact ⟨codes_of_fixes fixed (Span.contains_single.mpr rfl), fun _ => h.valid e he m image⟩
  · have lands := List.all_eq_true.mp h.lands s hs
    have target := Shift.contains_target lands inside
    refine ⟨codes_of_fixes (List.all_eq_true.mp h.shifted s hs) target, fun _ => ?_⟩
    obtain ⟨low, high, -⟩ := (Span.contains_iff _ _).mp target
    simp only [Shift.lands, Bool.and_eq_true, Bool.or_eq_true, decide_eq_true_eq] at lands
    unfold Nat.isValidChar
    omega

/-- A code point becomes one of a span that the table keeps exactly if it is one. -/
lemma contains_of_mem_codes (h : t.Settled) {a : Span} (fixed : t.fixes a = true)
    (avoided : t.avoids a = true) (mem : m ∈ t.codes n) : a.contains m = a.contains n := by
  by_cases inside : a.contains n = true
  · rw [codes_of_fixes fixed inside, List.mem_singleton] at mem
    rw [mem]
  · rw [avoids, Bool.and_eq_true] at avoided
    rw [Bool.eq_false_iff.mpr inside, ← Bool.not_eq_true]
    intro meet
    rcases mem_codes mem with ⟨-, rfl⟩ | ⟨e, he, -, image⟩ | ⟨s, hs, moved, rfl⟩
    · exact inside meet
    · have apart := List.all_eq_true.mp (List.all_eq_true.mp avoided.2 e he) m image
      have other := Span.contains_eq_false_of_apart apart meet
      rw [Span.contains_single.mpr rfl] at other
      cases other
    · have apart := List.all_eq_true.mp avoided.1 s hs
      have other := Span.contains_eq_false_of_apart apart meet
      rw [Shift.contains_target (List.all_eq_true.mp h.lands s hs) moved] at other
      cases other

lemma toNat_ofNat_of_mem_codes (h : t.Settled) {c : Char} (mem : m ∈ t.codes c.toNat) :
    (Char.ofNat m).toNat = m := by
  rw [Char.ofNat, dif_pos ((codes_of_mem_codes h mem).2 c.valid)]
  rfl

/-- What a character becomes does not change again. -/
lemma chars_of_mem_chars (h : t.Settled) {c d : Char} (mem : d ∈ t.chars c) : t.chars d = [d] := by
  obtain ⟨m, code, rfl⟩ := List.mem_map.mp mem
  rw [chars, toNat_ofNat_of_mem_codes h code, (codes_of_mem_codes h code).1, List.map_singleton]

/-- No character vanishes. -/
lemma chars_ne_nil (h : t.Settled) (c : Char) : t.chars c ≠ [] := by
  rw [chars, codes, mapCode, ne_eq, List.map_eq_nil_iff]
  cases several : t.expansions.lookup c.toNat with
  | some image =>
      obtain ⟨before, after, expansions, -⟩ := List.lookup_eq_some_iff.mp several
      exact h.full (c.toNat, image) (by simp [expansions])
  | none => cases t.shifts.find? (·.span.contains c.toNat) <;> simp

/-- Whether no character leaves or enters a class that is given by its spans. -/
def keeps (spans : List Span) : Bool := spans.all fun a => t.fixes a && t.avoids a

/-- A character stays inside or outside of a class that the table keeps. -/
lemma member_of_mem_chars (h : t.Settled) {spans : List Span} (kept : t.keeps spans = true)
    {c d : Char} (mem : d ∈ t.chars c) : member spans d = member spans c := by
  obtain ⟨m, code, rfl⟩ := List.mem_map.mp mem
  rw [keeps, List.all_eq_true] at kept
  rw [member, member, toNat_ofNat_of_mem_codes h code]
  have each : ∀ a ∈ spans, a.contains m = a.contains c.toNat := fun a ha => by
    obtain ⟨fixed, avoided⟩ := Bool.and_eq_true_iff.mp (kept a ha)
    exact contains_of_mem_codes h fixed avoided code
  rw [Bool.eq_iff_iff, List.any_eq_true, List.any_eq_true]
  exact exists_congr fun a => and_congr_right fun ha => by rw [each a ha]

/-- The table of small forms is settled. -/
lemma settled_lower : lower.Settled := by decide +kernel

/-- The table of capital forms is settled. -/
lemma settled_upper : upper.Settled := by decide +kernel

end CaseTable

/-! ### A second change of case -/

open CaseTable

lemma toLowerChar_of_mem {c d : Char} (mem : d ∈ toLowerChar c) : toLowerChar d = [d] :=
  chars_of_mem_chars settled_lower mem

lemma toUpperChar_of_mem {c d : Char} (mem : d ∈ toUpperChar c) : toUpperChar d = [d] :=
  chars_of_mem_chars settled_upper mem

/-- Characters without small forms of their own stay as they are, whatever stands around them. -/
lemma toLowerFrom_of_fixed {cs : List Char} (fixed : ∀ c ∈ cs, toLowerChar c = [c])
    (before : List Char) : toLowerFrom before cs = cs := by
  induction cs generalizing before with
  | nil => rfl
  | cons c rest ih =>
      have small : toLowerChar c = [c] := fixed c List.mem_cons_self
      have other : c ≠ 'Σ' := by
        rintro rfl
        exact absurd small (by decide +kernel)
      rw [toLowerFrom, if_neg other, small, List.singleton_append,
        ih fun d hd => fixed d (List.mem_cons_of_mem c hd)]

/-- A small form consists of characters that are small already. -/
lemma toLowerChar_of_mem_toLowerFrom {d : Char} {before cs : List Char}
    (mem : d ∈ toLowerFrom before cs) : toLowerChar d = [d] := by
  induction cs generalizing before with
  | nil => cases mem
  | cons c rest ih =>
      rcases List.mem_append.mp mem with here | later
      · split at here
        · rw [List.mem_singleton] at here
          split at here
          · rw [here]
            decide +kernel
          · rw [here]
            decide +kernel
        · exact toLowerChar_of_mem here
      · exact ih later

/-- The small form of a small form is the small form. -/
theorem toLowerChars_toLowerChars (cs : List Char) :
    toLowerChars (toLowerChars cs) = toLowerChars cs :=
  toLowerFrom_of_fixed (fun _ mem => toLowerChar_of_mem_toLowerFrom mem) []

/-- The capital form of a capital form is the capital form. -/
theorem toUpperChars_toUpperChars (cs : List Char) :
    toUpperChars (toUpperChars cs) = toUpperChars cs := by
  induction cs with
  | nil => rfl
  | cons c rest ih =>
      have here : toUpperChars (toUpperChar c) = toUpperChar c := by
        calc (toUpperChar c).flatMap toUpperChar
            = (toUpperChar c).flatMap fun d => [d] :=
              List.flatMap_congr fun d hd => toUpperChar_of_mem hd
          _ = toUpperChar c := List.flatMap_singleton' _
      have split : toUpperChars (c :: rest) = toUpperChar c ++ toUpperChars rest := rfl
      rw [split, toUpperChars_append, here, ih]

/-! ### Classes that a change of case keeps -/

/-- No character leaves or enters the class when its case changes. -/
structure Caseless (p : Char → Bool) : Prop where
  lower : ∀ {c d : Char}, d ∈ toLowerChar c → p d = p c
  upper : ∀ {c d : Char}, d ∈ toUpperChar c → p d = p c

/-- A class whose spans are kept by both tables. -/
lemma caseless_member {spans : List Span} (small : CaseTable.lower.keeps spans = true)
    (capital : CaseTable.upper.keeps spans = true) : Caseless (member spans) where
  lower := member_of_mem_chars settled_lower small
  upper := member_of_mem_chars settled_upper capital

lemma caseless_isWhiteSpace : Caseless isWhiteSpace :=
  caseless_member (by decide +kernel) (by decide +kernel)

/-- The second text is the first one in another case, as far as a class tells: each character became
one or more, which are in the class exactly if it is. -/
inductive Recased (p : Char → Bool) : List Char → List Char → Prop
  | nil : Recased p [] []
  | cons {c : Char} {cs ds es : List Char} (more : ds ≠ []) (alike : ∀ d ∈ ds, p d = p c)
      (rest : Recased p cs es) : Recased p (c :: cs) (ds ++ es)

namespace Recased

variable {p : Char → Bool} {cs ds cs' ds' : List Char}

lemma refl (p : Char → Bool) (cs : List Char) : Recased p cs cs := by
  induction cs with
  | nil => exact .nil
  | cons c cs ih => exact .cons (List.cons_ne_nil c []) (by simp) ih

lemma append (h : Recased p cs ds) (h' : Recased p cs' ds') :
    Recased p (cs ++ cs') (ds ++ ds') := by
  induction h with
  | nil => exact h'
  | cons more alike _ ih =>
      rw [List.append_assoc]
      exact .cons more alike ih

/-- Only the empty text becomes empty. -/
lemma eq_nil_iff (h : Recased p cs ds) : ds = [] ↔ cs = [] := by
  cases h with
  | nil => rfl
  | cons more => simp [more]

/-- Every character of the second text comes from one of the first. -/
lemma exists_of_mem (h : Recased p cs ds) {d : Char} (mem : d ∈ ds) : ∃ c ∈ cs, p d = p c := by
  induction h with
  | nil => cases mem
  | @cons c _ _ _ _ alike _ ih =>
      rcases List.mem_append.mp mem with here | later
      · exact ⟨c, List.mem_cons_self, alike d here⟩
      · obtain ⟨b, hb, same⟩ := ih later
        exact ⟨b, List.mem_cons_of_mem c hb, same⟩

/-- The texts start alike. -/
lemma map_head? (h : Recased p cs ds) : ds.head?.map p = cs.head?.map p := by
  cases h with
  | nil => rfl
  | @cons c _ ds _ more alike _ =>
      cases ds with
      | nil => exact absurd rfl more
      | cons d ds => simp [alike d]

/-- The texts end alike. -/
lemma map_getLast? (h : Recased p cs ds) : ds.getLast?.map p = cs.getLast?.map p := by
  induction h with
  | nil => rfl
  | @cons c cs ds es more alike rest ih =>
      cases cs with
      | nil =>
          have ended : es = [] := rest.eq_nil_iff.mpr rfl
          rw [ended, List.append_nil, List.getLast?_eq_some_getLast more]
          exact congrArg some (alike _ (List.getLast_mem more))
      | cons b cs =>
          have further : es ≠ [] := fun ended => List.cons_ne_nil b cs (rest.eq_nil_iff.mp ended)
          rw [List.getLast?_append_of_ne_nil _ further, ih, List.getLast?_cons_cons]

end Recased

variable {p : Char → Bool}

lemma recased_toLowerFrom (h : Caseless p) (before cs : List Char) :
    Recased p cs (toLowerFrom before cs) := by
  induction cs generalizing before with
  | nil => exact .nil
  | cons c rest ih =>
      rw [toLowerFrom]
      refine .cons ?_ (fun d hd => ?_) (ih (c :: before))
      · split
        · exact List.cons_ne_nil _ _
        · exact chars_ne_nil settled_lower c
      -- a sigma is small in two ways, one of them for the end of a word, and both count alike
      · split at hd
        · next sigma =>
            have inner : p 'σ' = p 'Σ' := h.lower (by decide +kernel)
            have final : p 'Σ' = p 'ς' := h.upper (by decide +kernel)
            rw [List.mem_singleton] at hd
            rw [hd, sigma]
            split
            · exact final.symm
            · exact inner
        · exact h.lower hd

/-- The small form of a text is the text in another case. -/
theorem recased_toLowerChars (h : Caseless p) (cs : List Char) : Recased p cs (toLowerChars cs) :=
  recased_toLowerFrom h [] cs

/-- The capital form of a text is the text in another case. -/
theorem recased_toUpperChars (h : Caseless p) (cs : List Char) :
    Recased p cs (toUpperChars cs) := by
  induction cs with
  | nil => exact .nil
  | cons c rest ih => exact .cons (chars_ne_nil settled_upper c) (fun d hd => h.upper hd) ih

/-! ### ASCII -/

/-- A table that changes 26 letters of ASCII one by one. -/
lemma CaseTable.chars_of_ascii {t : CaseTable} {f : Char → Char} (first : Nat)
    (below : t.fixes ⟨0, first - 1, 1⟩ = true) (above : t.fixes ⟨first + 26, 127, 1⟩ = true)
    (letters : ∀ k < 26, t.chars (Char.ofNat (first + k)) = [f (Char.ofNat (first + k))])
    (others : ∀ n < 128, n < first ∨ first + 26 ≤ n → f (Char.ofNat n) = Char.ofNat n)
    {c : Char} (ascii : c.toNat < 128) : t.chars c = [f c] := by
  by_cases other : c.toNat < first ∨ first + 26 ≤ c.toNat
  · have still : f c = c := by simpa using others c.toNat ascii other
    rw [still]
    rcases other with low | high
    · exact chars_of_fixes below (by simp [Span.contains, Nat.mod_one]; omega)
    · exact chars_of_fixes above (by simp [Span.contains, Nat.mod_one]; omega)
  · have letter := letters (c.toNat - first) (by omega)
    rwa [show first + (c.toNat - first) = c.toNat by omega, Char.ofNat_toNat] at letter

lemma toLowerChar_of_ascii {c : Char} (ascii : c.toNat < 128) : toLowerChar c = [c.toLower] :=
  CaseTable.chars_of_ascii (t := .lower) 0x41 (by decide +kernel) (by decide +kernel)
    (by decide +kernel) (by decide) ascii

lemma toUpperChar_of_ascii {c : Char} (ascii : c.toNat < 128) : toUpperChar c = [c.toUpper] :=
  CaseTable.chars_of_ascii (t := .upper) 0x61 (by decide +kernel) (by decide +kernel)
    (by decide +kernel) (by decide) ascii

/-- ASCII texts have the same capitals exactly if they have the same small letters. -/
lemma map_toUpper_eq_iff {a b : List Char} (ha : ∀ c ∈ a, c.toNat < 128)
    (hb : ∀ c ∈ b, c.toNat < 128) :
    a.map Char.toUpper = b.map Char.toUpper ↔ a.map Char.toLower = b.map Char.toLower := by
  -- either case is a function of the other one, checked over all of ASCII
  have forth : ∀ n < 128, (Char.ofNat n).toLower.toUpper = (Char.ofNat n).toUpper := by decide
  have back : ∀ n < 128, (Char.ofNat n).toUpper.toLower = (Char.ofNat n).toLower := by decide
  have upper {l : List Char} (hl : ∀ c ∈ l, c.toNat < 128) :
      (l.map Char.toLower).map Char.toUpper = l.map Char.toUpper := by
    rw [List.map_map]
    refine List.map_congr_left fun c hc => ?_
    rw [Function.comp_apply, ← Char.ofNat_toNat c]
    exact forth c.toNat (hl c hc)
  have lower {l : List Char} (hl : ∀ c ∈ l, c.toNat < 128) :
      (l.map Char.toUpper).map Char.toLower = l.map Char.toLower := by
    rw [List.map_map]
    refine List.map_congr_left fun c hc => ?_
    rw [Function.comp_apply, ← Char.ofNat_toNat c]
    exact back c.toNat (hl c hc)
  refine ⟨fun same => ?_, fun same => ?_⟩
  · rw [← lower ha, same, lower hb]
  · rw [← upper ha, same, upper hb]

/-- ASCII letters become small one by one. -/
theorem toLowerChars_of_ascii {cs : List Char} (ascii : ∀ c ∈ cs, c.toNat < 128) :
    toLowerChars cs = cs.map Char.toLower := by
  have each (before : List Char) : toLowerFrom before cs = cs.map Char.toLower := by
    induction cs generalizing before with
    | nil => rfl
    | cons c rest ih =>
        have here : c.toNat < 128 := ascii c List.mem_cons_self
        have other : c ≠ 'Σ' := by
          rintro rfl
          exact absurd here (by decide)
        rw [toLowerFrom, if_neg other, toLowerChar_of_ascii here,
          ih fun d hd => ascii d (List.mem_cons_of_mem c hd)]
        rfl
  exact each []

/-- ASCII letters become capitals one by one. -/
theorem toUpperChars_of_ascii {cs : List Char} (ascii : ∀ c ∈ cs, c.toNat < 128) :
    toUpperChars cs = cs.map Char.toUpper := by
  rw [toUpperChars, ← List.flatMap_singleton' (cs.map Char.toUpper), List.flatMap_map]
  exact List.flatMap_congr fun c hc => toUpperChar_of_ascii (ascii c hc)

end TenantSettings.Unicode

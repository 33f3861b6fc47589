import Mathlib.Data.List.Basic
import Mathlib.Tactic.Lemma
import TenantSettings.Profile.PasswordPolicy

/-!
# The rules for passwords

A check goes through seven rules in a fixed order and reports those that are broken. Which ones are
broken only depends on counts of characters and on the texts that are not allowed, and each of these
moves one way: with a stricter policy no broken rule is mended, and with a longer password no rule
is broken but the one against length and the one against single texts.

* `PasswordPolicy.Rule`: the rules, with what breaks them and what is then reported.
* `PasswordPolicy.check_eq`: a check reports the broken rules; `PasswordPolicy.check_eq_nil_iff`,
  when it reports none.
* `PasswordPolicy.AtLeastAsStrict.broken`, `PasswordPolicy.Rule.broken_of_append`: what a stricter
  policy and a longer password do to one rule.
* `PasswordPolicy.check_monotone`: what they do to a check.
-/

namespace TenantSettings

/-- The kinds of violations, in the order of the rules. -/
def Violation.kinds : List String :=
  ["TooShort", "TooLong", "NotEnoughUppercase", "NotEnoughLowercase", "NotEnoughNumeric",
    "NotEnoughSpecial", "Disallowed"]

namespace PasswordPolicy

/-! ### Rules -/

/-- The rules for passwords. -/
inductive Rule where
  | minimum | maximum | uppercase | lowercase | numeric | special | disallowed
deriving DecidableEq

namespace Rule

/-- The rules in the order in which they are checked. -/
def all : List Rule :=
  [minimum, maximum, uppercase, lowercase, numeric, special, disallowed]

/-- What is reported of a rule that is broken. -/
def violation (p : PasswordPolicy) : Rule → Violation
  | minimum => .tooShort p.minimumLength
  | maximum => .tooLong p.maximumLength
  | uppercase => .notEnoughUppercase p.minimumUppercase
  | lowercase => .notEnoughLowercase p.minimumLowercase
  | numeric => .notEnoughNumeric p.minimumNumeric
  | special => .notEnoughSpecial p.minimumSpecial
  | disallowed => .disallowed

/-- The kind of what is reported. -/
def kind : Rule → String
  | minimum => "TooShort"
  | maximum => "TooLong"
  | uppercase => "NotEnoughUppercase"
  | lowercase => "NotEnoughLowercase"
  | numeric => "NotEnoughNumeric"
  | special => "NotEnoughSpecial"
  | disallowed => "Disallowed"

/-- What breaks a rule. -/
def Broken (p : PasswordPolicy) (password : String) : Rule → Prop
  | minimum => password.toList.length < p.minimumLength
  | maximum => 0 < p.maximumLength ∧ p.maximumLength < password.toList.length
  | uppercase => password.toList.countP Unicode.isUppercase < p.minimumUppercase
  | lowercase => password.toList.countP Unicode.isLowercase < p.minimumLowercase
  | numeric => password.toList.countP Unicode.isNumeric < p.minimumNumeric
  | special => password.toList.countP isSpecial < p.minimumSpecial
  | disallowed => ∃ text ∈ p.disallowedValues, Unicode.eqIgnoreAsciiCase text password = true

instance (p : PasswordPolicy) (password : String) : DecidablePred (Broken p password) :=
  fun rule => by cases rule <;> dsimp only [Broken] <;> infer_instance

lemma mem_all (rule : Rule) : rule ∈ all := by cases rule <;> decide

lemma kind_violation (p : PasswordPolicy) (rule : Rule) : (rule.violation p).kind = rule.kind := by
  cases rule <;> rfl

end Rule

/-! ### Checks -/

/-- What is reported of a list of rules, one by one. -/
lemma map_filter_eq_flatMap {α : Type} (broken : α → Bool) (violation : α → Violation)
    (l : List α) : (l.filter broken).map violation
      = l.flatMap fun a => violationIf (broken a) (violation a) := by
  induction l with
  | nil => rfl
  | cons a rest ih =>
      rw [List.flatMap_cons, ← ih]
      cases h : broken a <;> simp [violationIf, h]

/-- A check reports the rules that are broken, in the order of the rules. -/
lemma check_eq (p : PasswordPolicy) (password : String) :
    p.check password
      = (Rule.all.filter fun rule => rule.Broken p password).map (Rule.violation p) := by
  have long : decide (Rule.Broken p password .maximum)
      = (decide (0 < p.maximumLength) && decide (p.maximumLength < password.toList.length)) :=
    Bool.decide_and _ _
  rw [map_filter_eq_flatMap]
  simpa [check, Rule.all, Rule.Broken, Rule.violation, List.any_eq]
    using congrArg (violationIf · (.tooLong p.maximumLength)) long.symm

lemma kinds_check (p : PasswordPolicy) (password : String) :
    (p.check password).map Violation.kind
      = (Rule.all.filter fun rule => rule.Broken p password).map Rule.kind := by
  rw [check_eq, List.map_map]
  exact List.map_congr_left fun rule _ => rule.kind_violation p

lemma mem_check_iff {p : PasswordPolicy} {password : String} {v : Violation} :
    v ∈ p.check password ↔ ∃ rule : Rule, rule.Broken p password ∧ rule.violation p = v := by
  simp [check_eq, Rule.mem_all]

/-- A check reports nothing if no rule is broken. -/
lemma check_eq_nil_iff {p : PasswordPolicy} {password : String} :
    p.check password = [] ↔ ∀ rule : Rule, ¬ rule.Broken p password := by
  simp [check_eq, Rule.mem_all]

/-! ### Stricter policies and longer passwords -/

/-- A policy that asks for no less than another one: no minimum is lower, passwords may not be
longer, and whatever the other one disallows is disallowed. -/
structure AtLeastAsStrict (q p : PasswordPolicy) : Prop where
  minimum : p.minimumLength ≤ q.minimumLength
  maximum : p.maximumLength = 0 ∨ 0 < q.maximumLength ∧ q.maximumLength ≤ p.maximumLength
  uppercase : p.minimumUppercase ≤ q.minimumUppercase
  lowercase : p.minimumLowercase ≤ q.minimumLowercase
  numeric : p.minimumNumeric ≤ q.minimumNumeric
  special : p.minimumSpecial ≤ q.minimumSpecial
  disallowed : p.disallowedValues ⊆ q.disallowedValues

/-- A rule that is broken under a policy is broken under every stricter one. -/
lemma AtLeastAsStrict.broken {p q : PasswordPolicy} (strict : q.AtLeastAsStrict p)
    {password : String} {rule : Rule} (broken : rule.Broken p password) :
    rule.Broken q password := by
  cases rule with
  | minimum => exact Nat.lt_of_lt_of_le broken strict.minimum
  | maximum =>
      obtain ⟨bounded, long⟩ := broken
      rcases strict.maximum with unbounded | ⟨bounded', le⟩
      · omega
      · exact ⟨bounded', Nat.lt_of_le_of_lt le long⟩
  | uppercase => exact Nat.lt_of_lt_of_le broken strict.uppercase
  | lowercase => exact Nat.lt_of_lt_of_le broken strict.lowercase
  | numeric => exact Nat.lt_of_lt_of_le broken strict.numeric
  | special => exact Nat.lt_of_lt_of_le broken strict.special
  | disallowed =>
      obtain ⟨text, mem, same⟩ := broken
      exact ⟨text, strict.disallowed mem, same⟩

/-- What is added to a password breaks no minimum. -/
lemma Rule.broken_of_append {p : PasswordPolicy} {password suffix : String} {rule : Rule}
    (broken : rule.Broken p (password ++ suffix)) (length : rule ≠ .maximum)
    (single : rule ≠ .disallowed) : rule.Broken p password := by
  have counts (q : Char → Bool) :
      password.toList.countP q ≤ (password ++ suffix).toList.countP q := by
    rw [String.toList_append, List.countP_append]
    omega
  cases rule with
  | minimum =>
      refine Nat.lt_of_le_of_lt ?_ broken
      rw [String.toList_append, List.length_append]
      omega
  | maximum => exact absurd rfl length
  | uppercase => exact Nat.lt_of_le_of_lt (counts _) broken
  | lowercase => exact Nat.lt_of_le_of_lt (counts _) broken
  | numeric => exact Nat.lt_of_le_of_lt (counts _) broken
  | special => exact Nat.lt_of_le_of_lt (counts _) broken
  | disallowed => exact absurd rfl single

/-- Under a stricter policy a password breaks at least the same kinds of rules; a password that is
made longer breaks no kinds of rules that it did not break before, but may become too long or
disallowed; and every check reports each kind at most once, in the order of the rules. -/
theorem check_monotone :
    (∀ p q : PasswordPolicy, q.AtLeastAsStrict p → ∀ password : String,
        ((p.check password).map Violation.kind).Sublist ((q.check password).map Violation.kind))
      ∧ (∀ (p : PasswordPolicy) (password suffix : String),
          ∀ k ∈ (p.check (password ++ suffix)).map Violation.kind,
            k ∈ (p.check password).map Violation.kind ∨ k = "TooLong" ∨ k = "Disallowed")
      ∧ Violation.kinds.Nodup
      ∧ ∀ (p : PasswordPolicy) (password : String),
          ((p.check password).map Violation.kind).Sublist Violation.kinds := by
  refine ⟨fun p q strict password => ?_, fun p password suffix k mem => ?_, by decide,
    fun p password => ?_⟩
  -- both reports are filtered from one list of rules, so more broken rules make a longer one
  · rw [kinds_check, kinds_check]
    refine (List.monotone_filter_right _ fun rule broken => ?_).map _
    rw [decide_eq_true_iff] at broken ⊢
    exact strict.broken broken
  · rw [kinds_check, List.mem_map] at mem
    obtain ⟨rule, reported, rfl⟩ := mem
    -- all rules but two ask for a least number of characters, of which there are now more
    have broken : rule.Broken p (password ++ suffix) := by simpa [Rule.mem_all] using reported
    by_cases length : rule = .maximum
    · exact .inr (.inl (congrArg Rule.kind length))
    · by_cases single : rule = .disallowed
      · exact .inr (.inr (congrArg Rule.kind single))
      · refine .inl ?_
        rw [kinds_check]
        refine List.mem_map_of_mem (List.mem_filter.mpr ⟨rule.mem_all, ?_⟩)
        exact decide_eq_true (Rule.broken_of_append broken length single)
  · rw [kinds_check]
    have order : Violation.kinds = Rule.all.map Rule.kind := rfl
    rw [order]
    exact List.filter_sublist.map _

/-- A word that is not allowed and has no special character, under a policy and a stricter one, and
put together from two parts. -/
theorem check_monotone_stricter :
    let p : PasswordPolicy := ⟨"default", .root, [], 2, 0, 0, 0, 0, 1, ["letmein"], ""⟩
    let q : PasswordPolicy := ⟨"strict", .root, [], 8, 20, 1, 0, 0, 1, ["secret", "letmein"], ""⟩
    q.AtLeastAsStrict p
      ∧ ["NotEnoughSpecial", "Disallowed"].Sublist ((q.check "LetMeIn").map Violation.kind)
      ∧ "NotEnoughSpecial" ∈ (p.check ("Let" ++ "MeIn")).map Violation.kind
      ∧ "NotEnoughSpecial" ∈ (p.check "Let").map Violation.kind := by
  intro p q
  obtain ⟨stricter, longer, -⟩ := check_monotone
  have strict : q.AtLeastAsStrict p := by
    constructor <;> decide
  have kinds : (p.check "LetMeIn").map Violation.kind = ["NotEnoughSpecial", "Disallowed"] := by
    decide +kernel
  have broken : "NotEnoughSpecial" ∈ (p.check ("Let" ++ "MeIn")).map Violation.kind := by
    decide +kernel
  refine ⟨strict, kinds ▸ stricter p q strict "LetMeIn", broken, ?_⟩
  exact (longer p "Let" "MeIn" _ broken).resolve_right (by decide)

end PasswordPolicy

end TenantSettings

import Mathlib.Order.WellFounded
import TenantSettings.Proofs.Locale.Lookup
import TenantSettings.Proofs.Text.Split

/-!
# The locale that suits best

An available locale suits a desired one in one of four ways, or in none: it is the desired one, its
bare language, a locale of its language, or the root. These are tiers, the best one first, and what
suits best is the first locale of the best tier that is not empty.

* `Tier.Admits`, `Tier.Best`: the locales of a tier, and the best tier of a list;
  `Tier.exists_best` and `Tier.Best.unique`: there is one where some locale suits at all.
* `resolve_of_best`, `resolve_eq_none_iff`: what is resolved, in terms of tiers.
* `best_congr`, `exists_best_of_subset`: the best tier of a list in another order and of a longer
  one.
* `resolve_tiers`: the rules of resolution.
-/

namespace TenantSettings.Locale

/-- A locale is given by its tag. -/
lemma eq_of_tag_eq {l k : Locale} (tags : l.tag = k.tag) : l = k := by
  cases l
  cases k
  cases tags
  rfl

/-- How an available locale suits a desired one, the best way first. -/
inductive Tier where
  | desired
  | bareLanguage
  | sameLanguage
  | root
deriving DecidableEq, Repr

namespace Tier

/-- The place of a tier, zero for the best one. -/
def rank : Tier → Nat
  | desired => 0
  | bareLanguage => 1
  | sameLanguage => 2
  | root => 3

/-- Whether an available locale is in a tier. The language counts only where the desired locale has
one. -/
def Admits (d : Locale) : Tier → Locale → Prop
  | desired, l => l = d
  | bareLanguage, l => d.language ≠ "" ∧ l.tag = d.language
  | sameLanguage, l => d.language ≠ "" ∧ l.language = d.language
  | root, l => l = Locale.root

instance (d : Locale) : (τ : Tier) → (l : Locale) → Decidable (τ.Admits d l)
  | desired, l => inferInstanceAs (Decidable (l = d))
  | bareLanguage, l => inferInstanceAs (Decidable (d.language ≠ "" ∧ l.tag = d.language))
  | sameLanguage, l => inferInstanceAs (Decidable (d.language ≠ "" ∧ l.language = d.language))
  | root, l => inferInstanceAs (Decidable (l = Locale.root))

/-- The best tier that some of the available locales are in. -/
structure Best (d : Locale) (available : List Locale) (τ : Tier) : Prop where
  inhabited : ∃ l ∈ available, τ.Admits d l
  least : ∀ σ : Tier, σ.rank < τ.rank → ∀ l ∈ available, ¬ σ.Admits d l

variable {d : Locale} {available : List Locale} {τ σ : Tier}

/-- Where a tier has a locale there is a best tier, which is no worse. -/
lemma exists_best {l : Locale} (mem : l ∈ available) (h : τ.Admits d l) :
    ∃ σ : Tier, σ.Best d available ∧ σ.rank ≤ τ.rank := by
  induction rank : τ.rank using Nat.strong_induction_on generalizing τ l with
  | _ n ih =>
      by_cases better : ∃ σ : Tier, σ.rank < τ.rank ∧ ∃ k ∈ available, σ.Admits d k
      · obtain ⟨σ, lower, k, hk, admitted⟩ := better
        obtain ⟨ρ, best, below⟩ := ih σ.rank (rank ▸ lower) hk admitted rfl
        exact ⟨ρ, best, by omega⟩
      · refine ⟨τ, ⟨⟨l, mem, h⟩, fun σ lower k hk admitted => better ?_⟩, rank.le⟩
        exact ⟨σ, lower, k, hk, admitted⟩

/-- The best tier has a first locale. -/
lemma Best.exists_find? (h : τ.Best d available) :
    ∃ l, available.find? (τ.Admits d ·) = some l ∧ τ.Admits d l := by
  obtain ⟨k, mem, admitted⟩ := h.inhabited
  have hit : (available.find? (τ.Admits d ·)).isSome :=
    List.find?_isSome.mpr ⟨k, mem, decide_eq_true admitted⟩
  obtain ⟨l, found⟩ := Option.isSome_iff_exists.mp hit
  have inside := List.find?_some found
  exact ⟨l, found, of_decide_eq_true inside⟩

/-- A list has one best tier. -/
theorem Best.unique (h : τ.Best d available) (h' : σ.Best d available) : τ = σ := by
  obtain ⟨l, mem, admitted⟩ := h.inhabited
  obtain ⟨k, mem', admitted'⟩ := h'.inhabited
  have no_better : ¬ τ.rank < σ.rank := fun lower => h'.least τ lower l mem admitted
  have no_worse : ¬ σ.rank < τ.rank := fun lower => h.least σ lower k mem' admitted'
  have same : τ.rank = σ.rank := by omega
  cases τ <;> cases σ <;> first | rfl | exact absurd same (by decide)

/-- The best tier depends on which locales are available, not on their order. -/
lemma best_congr {available' : List Locale} (same : ∀ l, l ∈ available ↔ l ∈ available') :
    τ.Best d available ↔ τ.Best d available' := by
  have half {a b : List Locale} (same : ∀ l, l ∈ a ↔ l ∈ b) (h : τ.Best d a) : τ.Best d b := by
    obtain ⟨l, mem, admitted⟩ := h.inhabited
    exact ⟨⟨l, (same l).mp mem, admitted⟩, fun σ lower k hk => h.least σ lower k ((same k).mpr hk)⟩
  exact ⟨half same, half fun l => (same l).symm⟩

/-- With more locales available the best tier gets no worse. -/
lemma exists_best_of_subset {more : List Locale} (h : τ.Best d available)
    (sub : available ⊆ more) : ∃ σ : Tier, σ.Best d more ∧ σ.rank ≤ τ.rank := by
  obtain ⟨l, mem, admitted⟩ := h.inhabited
  exact exists_best (sub mem) admitted

/-- Outside of the tier of the same language all locales of a tier are the same. -/
lemma Admits.eq {l k : Locale} (other : τ ≠ sameLanguage) (hl : τ.Admits d l)
    (hk : τ.Admits d k) : l = k := by
  cases τ with
  | desired => exact Eq.trans hl (Eq.symm hk)
  | bareLanguage => exact eq_of_tag_eq (hl.2.trans hk.2.symm)
  | sameLanguage => exact absurd rfl other
  | root => exact Eq.trans hl (Eq.symm hk)

end Tier

/-! ### What is resolved -/

open Tier

variable {d : Locale} {available : List Locale} {τ : Tier}

/-- The tiers are searched one after another. -/
lemma resolve_eq_or (d : Locale) (available : List Locale) :
    resolve d available = (available.find? (Tier.desired.Admits d ·)).or
      ((available.find? (bareLanguage.Admits d ·)).or
        ((available.find? (sameLanguage.Admits d ·)).or
          (available.find? (Tier.root.Admits d ·)))) := by
  have roots : (fun l : Locale => l.isRoot) = fun l => decide (Tier.root.Admits d l) := by
    funext l
    rw [Bool.eq_iff_iff, decide_eq_true_iff]
    cases l
    simp [isRoot, Admits, Locale.root]
  rw [resolve, roots]
  -- without a language the two tiers between are skipped, and admit nothing either
  by_cases nameless : d.language = ""
  · have bare : available.find? (bareLanguage.Admits d ·) = none :=
      List.find?_eq_none.mpr fun l _ => by simp [Admits, nameless]
    have related : available.find? (sameLanguage.Admits d ·) = none :=
      List.find?_eq_none.mpr fun l _ => by simp [Admits, nameless]
    rw [bare, related, nameless]
    rfl
  · have bare : (fun l : Locale => l.tag == d.language)
        = fun l => decide (bareLanguage.Admits d l) := by
      funext l
      rw [Bool.eq_iff_iff]
      simp [Admits, nameless]
    have related : (fun l : Locale => l.language == d.language)
        = fun l => decide (sameLanguage.Admits d l) := by
      funext l
      rw [Bool.eq_iff_iff]
      simp [Admits, nameless]
    have named : d.language.isEmpty = false := by simpa using nameless
    simp only [named, Bool.false_eq_true, if_false, bare, related, Option.or_assoc]
    rfl

/-- What is resolved is the first locale of the best tier. -/
lemma resolve_of_best (best : τ.Best d available) :
    resolve d available = available.find? (τ.Admits d ·) := by
  have passed (σ : Tier) (lower : σ.rank < τ.rank) : available.find? (σ.Admits d ·) = none :=
    List.find?_eq_none.mpr fun l mem => by simpa using best.least σ lower l mem
  obtain ⟨l, hl, -⟩ := best.exists_find?
  rw [resolve_eq_or, hl]
  cases τ with
  | desired => rw [hl, Option.some_or]
  | bareLanguage => rw [passed .desired (by decide), hl, Option.none_or, Option.some_or]
  | sameLanguage =>
      rw [passed .desired (by decide), passed .bareLanguage (by decide), hl,
        Option.none_or, Option.none_or, Option.some_or]
  | root =>
      rw [passed .desired (by decide), passed .bareLanguage (by decide),
        passed .sameLanguage (by decide), hl, Option.none_or, Option.none_or, Option.none_or]

/-- Nothing is resolved exactly if no available locale is in any tier. -/
lemma resolve_eq_none_iff :
    resolve d available = none ↔ ∀ τ : Tier, ∀ l ∈ available, ¬ τ.Admits d l := by
  constructor
  · intro nothing τ l mem admitted
    obtain ⟨σ, best, -⟩ := exists_best mem admitted
    obtain ⟨k, hk, inside⟩ := best.inhabited
    rw [resolve_of_best best] at nothing
    exact List.find?_eq_none.mp nothing k hk (by simpa using inside)
  · intro nothing
    have passed (τ : Tier) : available.find? (τ.Admits d ·) = none :=
      List.find?_eq_none.mpr fun l mem => by simpa using nothing τ l mem
    rw [resolve_eq_or, passed, passed, passed, passed]
    rfl

/-- What is resolved stands in the best tier, and nothing before it does. -/
lemma resolve_eq_some_iff {found : Locale} :
    resolve d available = some found ↔ ∃ τ : Tier, τ.Best d available ∧ τ.Admits d found
      ∧ ∃ before after, available = before ++ found :: after ∧ ∀ l ∈ before, ¬ τ.Admits d l := by
  have first {τ : Tier} : available.find? (τ.Admits d ·) = some found ↔ τ.Admits d found
      ∧ ∃ before after, available = before ++ found :: after ∧ ∀ l ∈ before, ¬ τ.Admits d l := by
    rw [List.find?_eq_some_iff_append]
    simp
  constructor
  · intro h
    obtain ⟨τ, l, mem, admitted⟩ : ∃ τ : Tier, ∃ l ∈ available, τ.Admits d l := by
      by_contra nothing
      rw [resolve_eq_none_iff.mpr fun τ l mem admitted => nothing ⟨τ, l, mem, admitted⟩] at h
      cases h
    obtain ⟨σ, best, -⟩ := exists_best mem admitted
    rw [resolve_of_best best] at h
    exact ⟨σ, best, first.mp h⟩
  · rintro ⟨τ, best, admitted, before, after, whole, passed⟩
    rw [resolve_of_best best]
    exact first.mpr ⟨admitted, before, after, whole, passed⟩

/-- In another order, something else is resolved only within the tier of the same language. -/
lemma best_of_resolve_ne {reordered : List Locale} (perm : available.Perm reordered)
    (changed : resolve d reordered ≠ resolve d available) : sameLanguage.Best d available := by
  by_contra other
  refine changed ?_
  by_cases suited : ∃ τ : Tier, ∃ l ∈ available, τ.Admits d l
  · obtain ⟨τ, l, mem, admitted⟩ := suited
    obtain ⟨σ, best, -⟩ := exists_best mem admitted
    have single : σ ≠ sameLanguage := fun same => other (same ▸ best)
    have best' := (best_congr fun _ => perm.mem_iff).mp best
    obtain ⟨k, found, inside⟩ := best.exists_find?
    obtain ⟨k', found', inside'⟩ := best'.exists_find?
    rw [resolve_of_best best, resolve_of_best best', found, found', inside.eq single inside']
  · have nothing : resolve d available = none :=
      resolve_eq_none_iff.mpr fun τ l mem admitted => suited ⟨τ, l, mem, admitted⟩
    rw [nothing]
    exact resolve_eq_none_iff.mpr fun τ l mem admitted =>
      suited ⟨τ, l, perm.mem_iff.mpr mem, admitted⟩

/-- The language of a locale has itself for a language. -/
lemma language_language (d : Locale) : (⟨d.language⟩ : Locale).language = d.language := by
  obtain ⟨first, rest, parts⟩ :=
    List.exists_cons_of_ne_nil (Text.split_ne_nil (· == '_') d.tag.toList)
  have free : ∀ c ∈ first, (c == '_') = false :=
    fun c hc => (Text.mem_of_mem_split (parts ▸ List.mem_cons_self) c hc).2
  have language_eq : d.language = String.ofList first := by
    rw [language, Locale.parts, parts, List.headD_cons]
  rw [language_eq, language, Locale.parts, String.toList_ofList, Text.split_of_free free,
    List.headD_cons]

/-- What is resolved has the desired language, or it is the root. -/
lemma language_of_resolve {found : Locale} (h : resolve d available = some found) :
    found.language = d.language ∨ found = Locale.root := by
  obtain ⟨τ, -, admitted, -⟩ := resolve_eq_some_iff.mp h
  cases τ with
  | desired => exact .inl (congrArg language admitted)
  | bareLanguage =>
      have bare : found = ⟨d.language⟩ := eq_of_tag_eq admitted.2
      exact .inl (bare ▸ language_language d)
  | sameLanguage => exact .inl admitted.2
  | root => exact .inr admitted

/-- A value is selected exactly if one of the locales that the tags name is resolved. -/
lemma isSome_select_iff {ν : Type} (m : OrderedMap String ν) (d : Locale) :
    (select m d).isSome ↔ (resolve d (m.keys.map parse)).isSome := by
  rw [select_eq_first, chosen]
  cases choice : resolve d (m.keys.map parse) with
  | none => rfl
  | some l => simp [named_ne_nil (m := m) choice]

/-- For every desired locale, parsed or not, and every list of available ones: what is resolved is
the first locale of the best tier, and nothing is exactly if no locale is in any tier. In another
order the best tier is the same, and what is resolved too but within the tier of the same language;
with more locales the best tier gets no worse; what is resolved has the desired language or is the
root; and from a map a value is selected exactly if something is resolved among the locales that its
tags name. -/
theorem resolve_tiers (d : Locale) (available : List Locale) :
    (∀ found, resolve d available = some found ↔ ∃ τ : Tier, τ.Best d available ∧ τ.Admits d found
        ∧ ∃ before after, available = before ++ found :: after ∧ ∀ l ∈ before, ¬ τ.Admits d l)
      ∧ (resolve d available = none ↔ ∀ τ : Tier, ∀ l ∈ available, ¬ τ.Admits d l)
      ∧ (∀ reordered, available.Perm reordered →
          (∀ τ : Tier, τ.Best d reordered ↔ τ.Best d available)
            ∧ (resolve d reordered ≠ resolve d available → sameLanguage.Best d available))
      ∧ (∀ more, available ⊆ more → ∀ τ : Tier, τ.Best d available →
          ∃ σ : Tier, σ.Best d more ∧ σ.rank ≤ τ.rank)
      ∧ (∀ found, resolve d available = some found →
          found.language = d.language ∨ found = Locale.root)
      ∧ ∀ {ν : Type} (m : OrderedMap String ν),
          (select m d).isSome ↔ (resolve d (m.keys.map parse)).isSome := by
  refine ⟨fun _ => resolve_eq_some_iff, resolve_eq_none_iff, fun reordered perm => ⟨?_, ?_⟩,
    fun more sub τ best => exists_best_of_subset best sub, fun _ => language_of_resolve,
    fun m => isSome_select_iff m d⟩
  · exact fun τ => best_congr fun _ => perm.symm.mem_iff
  · exact best_of_resolve_ne perm

/-- Two locales of the desired language, in one order and in the other, and then with the bare
language behind them. -/
theorem resolve_tiers_of_two :
    let d : Locale := ⟨"de_CH"⟩
    let available : List Locale := [.root, ⟨"de_AT"⟩, ⟨"de_DE"⟩]
    let reordered : List Locale := [.root, ⟨"de_DE"⟩, ⟨"de_AT"⟩]
    let more : List Locale := [.root, ⟨"de_AT"⟩, ⟨"de_DE"⟩, ⟨"de"⟩]
    resolve d available = some ⟨"de_AT"⟩ ∧ resolve d reordered = some ⟨"de_DE"⟩
      ∧ sameLanguage.Best d available ∧ sameLanguage.Best d reordered
      ∧ (∃ σ : Tier, σ.Best d more ∧ σ.rank ≤ sameLanguage.rank)
      ∧ (Locale.mk "de_AT").language = d.language := by
  intro d available reordered more
  obtain ⟨-, -, reorder, extend, language, -⟩ := resolve_tiers d available
  have austria : resolve d available = some ⟨"de_AT"⟩ := by decide
  have germany : resolve d reordered = some ⟨"de_DE"⟩ := by decide
  obtain ⟨tiers, within⟩ := reorder reordered (by decide)
  have best : sameLanguage.Best d available := within (by rw [austria, germany]; decide)
  refine ⟨austria, germany, best, (tiers _).mpr best, extend more (by decide) _ best, ?_⟩
  exact (language _ austria).resolve_right (by decide)

end TenantSettings.Locale

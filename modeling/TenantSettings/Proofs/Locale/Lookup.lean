import TenantSettings.Locale
import TenantSettings.Proofs.OrderedMap

/-!
# Ways to look a locale up

What suits a locale best in a map under written tags can be selected from the map itself, or it can
be looked up in the map by locales that the tags name. The two choose the same locale. Where several
tags name it, they part: the selection takes the first of their values, while a map by locales has
kept the last.

* `Locale.resolve_eraseDups`: repetitions make no difference to the locale that suits best.
* `Locale.chosen`, `Locale.named`: the locale that suits best in a map, and the values under the
  tags that name a locale.
* `Locale.select_eq_first`, `Locale.best_byLocale`: both ways, in these terms.
* `Locale.LooksUp`: what one way finds next to the other.
-/

namespace TenantSettings

namespace Locale

open OrderedMap

variable {ν : Type}

/-! ### The locale that suits best -/

/-- The choice depends on what is found first, and on nothing else. -/
lemma resolve_congr (desired : Locale) {l l' : List Locale}
    (same : ∀ p : Locale → Bool, l.find? p = l'.find? p) :
    resolve desired l = resolve desired l' := by
  simp only [resolve, same]

/-- Repetitions make no difference. -/
lemma resolve_eraseDups (desired : Locale) (l : List Locale) :
    resolve desired l.eraseDups = resolve desired l :=
  resolve_congr desired fun p => find?_eraseDups p l

lemma resolve_nil (desired : Locale) : resolve desired [] = none := by
  rw [resolve]
  split <;> rfl

/-- The locale that suits best is one of those available. -/
lemma mem_of_resolve {desired found : Locale} {l : List Locale}
    (h : resolve desired l = some found) : found ∈ l := by
  rw [resolve] at h
  rcases Option.or_eq_some_iff.mp h with itself | ⟨-, rest⟩
  · exact List.mem_of_find?_eq_some itself
  · rcases Option.or_eq_some_iff.mp rest with near | ⟨-, fallback⟩
    · split at near
      · cases near
      · rcases Option.or_eq_some_iff.mp near with bare | ⟨-, related⟩
        · exact List.mem_of_find?_eq_some bare
        · exact List.mem_of_find?_eq_some related
    · exact List.mem_of_find?_eq_some fallback

/-! ### Both ways -/

/-- The entries of a map under the locales that their tags name. -/
def parsed (m : OrderedMap String ν) : List (Locale × ν) :=
  m.entries.map fun e => (parse e.1, e.2)

/-- A map under written tags as a map by the locales that they name. -/
def byLocale (m : OrderedMap String ν) : OrderedMap Locale ν := .ofList (parsed m)

/-- What a map by locales has for the locale that suits best. -/
def best (desired : Locale) (m : OrderedMap Locale ν) : Option ν :=
  (resolve desired m.keys).bind m.get?

/-- The locale that suits best among those that the tags of a map name. -/
def chosen (desired : Locale) (m : OrderedMap String ν) : Option Locale :=
  resolve desired (m.keys.map parse)

/-- The values under the tags that name a locale, in stored order. -/
def named (m : OrderedMap String ν) (l : Locale) : List ν := valuesAt l (parsed m)

lemma map_fst_parsed (m : OrderedMap String ν) : (parsed m).map Prod.fst = m.keys.map parse := by
  simp [parsed, OrderedMap.keys]

/-- The selection takes the first value of the locale that is chosen. -/
lemma select_eq_first (desired : Locale) (m : OrderedMap String ν) :
    select m desired = (chosen desired m).bind fun l => (named m l).head? := by
  calc select m desired
      = (resolve desired ((parsed m).map Prod.fst)).bind fun l => (parsed m).lookup l := rfl
    _ = (chosen desired m).bind fun l => (parsed m).lookup l := by rw [map_fst_parsed, chosen]
    _ = (chosen desired m).bind fun l => (named m l).head? :=
        congrArg (Option.bind _) (funext fun l => lookup_eq_head? l (parsed m))

/-- In a map by locales the last value of the locale that is chosen is found. -/
lemma best_byLocale (desired : Locale) (m : OrderedMap String ν) :
    best desired (byLocale m) = (chosen desired m).bind fun l => (named m l).getLast? := by
  calc best desired (byLocale m)
      = (resolve desired ((parsed m).map Prod.fst).eraseDups).bind (byLocale m).get? := by
        rw [best, byLocale, keys_ofList]
    _ = (chosen desired m).bind (byLocale m).get? := by
        rw [resolve_eraseDups, map_fst_parsed, chosen]
    _ = (chosen desired m).bind fun l => (named m l).getLast? :=
        congrArg (Option.bind _) (funext fun l => get?_ofList l (parsed m))

/-- A locale that is chosen has a value. -/
lemma named_ne_nil {desired l : Locale} {m : OrderedMap String ν} (h : chosen desired m = some l) :
    named m l ≠ [] := by
  have mem : l ∈ (parsed m).map Prod.fst := by
    rw [map_fst_parsed]
    exact mem_of_resolve h
  obtain ⟨e, entry, rfl⟩ := List.mem_map.mp mem
  have value : e.2 ∈ valuesAt e.1 (parsed m) :=
    List.mem_map.mpr ⟨e, List.mem_filter.mpr ⟨entry, by simp⟩, rfl⟩
  exact List.ne_nil_of_mem value

/-! ### One way next to the other -/

/-- What is found for a locale in a map by locales, next to what is selected for it from the map
under written tags. -/
structure LooksUp (desired : Locale) (m : OrderedMap String ν) (found : Option ν) : Prop where
  /-- Something is found exactly if something is selected. -/
  none_iff : found = none ↔ select m desired = none
  /-- Of the values of the locale that is chosen, the last one is found. -/
  last : found = (chosen desired m).bind fun l => (named m l).getLast?
  /-- Of these, the first one is selected. -/
  first : select m desired = (chosen desired m).bind fun l => (named m l).head?
  /-- If all of them are the same, then what is found is what is selected. -/
  agree : (∀ l, chosen desired m = some l → ∀ v ∈ named m l, ∀ w ∈ named m l, v = w) →
    found = select m desired

lemma getLast?_eq_head? {l : List ν} (same : ∀ v ∈ l, ∀ w ∈ l, v = w) : l.getLast? = l.head? := by
  cases l with
  | nil => rfl
  | cons a rest =>
      rw [List.getLast?_eq_some_getLast (List.cons_ne_nil a rest), List.head?_cons]
      exact congrArg some (same _ (List.getLast_mem _) a List.mem_cons_self)

/-- The map by locales is looked up as it should be. -/
theorem looksUp_byLocale (desired : Locale) (m : OrderedMap String ν) :
    LooksUp desired m (best desired (byLocale m)) := by
  have last := best_byLocale desired m
  have first := select_eq_first desired m
  refine ⟨?_, last, first, fun same => ?_⟩
  · rw [last, first]
    cases choice : chosen desired m with
    | none => rfl
    | some l =>
        have named := named_ne_nil choice
        simp [named]
  · rw [last, first]
    cases choice : chosen desired m with
    | none => rfl
    | some l => exact getLast?_eq_head? (same l choice)

end Locale

end TenantSettings

import Mathlib.Data.List.Infix
import Mathlib.Tactic.Lemma

/-!
# Texts in front of a marker, and texts in a row

Two texts, each with a marker behind it and anything behind the marker, are told apart if neither
holds the marker of the other and no marker can start inside a marker.  Items that are told apart in
front of whatever may follow them are told apart in a row.

* `Apart`: a marker cannot start inside another one; it is decidable.
* `append_marker_inj`: equal texts have their markers at the same place.
* `flatMap_append_inj`: equal rows have equal items.
-/

namespace TenantSettings.Text

variable {α : Type}

/-- The second marker cannot start inside the first one behind its first character, not even where
it would go on behind its end. -/
def Apart (m n : List α) : Prop := ∀ d ∈ m.tail.tails, d ≠ [] → ¬ (d <+: n ∨ n <+: d)

instance [DecidableEq α] (m n : List α) : Decidable (Apart m n) :=
  inferInstanceAs (Decidable (∀ d ∈ m.tail.tails, d ≠ [] → ¬ (d <+: n ∨ n <+: d)))

/-- A marker does not start behind the start of another one, if the text in between does not hold
the other one. -/
lemma eq_nil_of_marker {m n c r s : List α} (apart : Apart m n) (free : ¬ m <+: c)
    (same : m ++ r = c ++ (n ++ s)) : c = [] := by
  rcases List.append_eq_append_iff.mp same with ⟨d, rfl, -⟩ | ⟨d, rfl, behind⟩
  · exact absurd (List.prefix_append m d) free
  · cases c with
    | nil => rfl
    | cons x c =>
        -- the second marker starts in front of `d`, the nonempty end of the first one
        have inside : d ∈ (x :: c ++ d).tail.tails := (List.mem_tails d _).mpr ⟨c, rfl⟩
        have nonempty : d ≠ [] := by
          rintro rfl
          exact free (by rw [List.append_nil])
        have meet : d <+: n ∨ n <+: d :=
          List.prefix_or_prefix_of_prefix ⟨r, behind.symm⟩ ⟨s, rfl⟩
        exact absurd meet (apart d inside nonempty)

/-- Equal texts have their markers at the same place. -/
theorem append_marker_inj {m n a b r s : List α} (apart : Apart m n) (apart' : Apart n m)
    (ha : ¬ n <:+: a) (hb : ¬ m <:+: b) (same : a ++ (m ++ r) = b ++ (n ++ s)) :
    a = b ∧ m ++ r = n ++ s := by
  rcases List.append_eq_append_iff.mp same with ⟨c, rfl, behind⟩ | ⟨c, rfl, behind⟩
  · have free : ¬ m <+: c := fun front => hb (front.isInfix.trans (List.suffix_append a c).isInfix)
    obtain rfl := eq_nil_of_marker apart free behind
    exact ⟨(List.append_nil a).symm, behind⟩
  · have free : ¬ n <+: c := fun front => ha (front.isInfix.trans (List.suffix_append b c).isInfix)
    obtain rfl := eq_nil_of_marker apart' free behind
    exact ⟨List.append_nil b, behind.symm⟩

/-- Items that are told apart in front of what may follow an item are told apart in a row, up to an
end that no item looks like. -/
theorem flatMap_append_inj {β : Type} {text : β → List α} (Item : β → Prop)
    (Follows Ends : List α → Prop)
    (step : ∀ {b b' : β} {s s' : List α}, Item b → Item b' → Follows s → Follows s' →
      text b ++ s = text b' ++ s' → b = b' ∧ s = s')
    (next : ∀ {b : β} {s : List α}, Item b → Follows s → Follows (text b ++ s))
    (ends : ∀ {s : List α}, Ends s → Follows s)
    (other : ∀ {b : β} {s t : List α}, Item b → Follows s → Ends t → text b ++ s ≠ t)
    {l l' : List β} (items : ∀ b ∈ l, Item b) (items' : ∀ b ∈ l', Item b) {s s' : List α}
    (hs : Ends s) (hs' : Ends s') (same : l.flatMap text ++ s = l'.flatMap text ++ s') :
    l = l' ∧ s = s' := by
  -- items in a row, up to an end, may follow an item, so that each step applies to the rest
  have follows : ∀ (l : List β), (∀ b ∈ l, Item b) → ∀ {s : List α}, Ends s →
      Follows (l.flatMap text ++ s) := by
    intro l items s hs
    induction l with
    | nil => exact ends hs
    | cons b rest ih =>
        rw [List.forall_mem_cons] at items
        rw [List.flatMap_cons, List.append_assoc]
        exact next items.1 (ih items.2)
  -- by induction on the first row: an end looks like no item, so both rows stop together
  induction l generalizing l' with
  | nil =>
      cases l' with
      | nil => exact ⟨rfl, same⟩
      | cons b' rest' =>
          rw [List.forall_mem_cons] at items'
          rw [List.flatMap_nil, List.nil_append, List.flatMap_cons, List.append_assoc] at same
          exact absurd same.symm (other items'.1 (follows rest' items'.2 hs') hs)
  | cons b rest ih =>
      rw [List.forall_mem_cons] at items
      rw [List.flatMap_cons, List.append_assoc] at same
      cases l' with
      | nil => exact absurd same (other items.1 (follows rest items.2 hs) hs')
      | cons b' rest' =>
          rw [List.forall_mem_cons] at items'
          rw [List.flatMap_cons, List.append_assoc] at same
          obtain ⟨rfl, behind⟩ := step items.1 items'.1 (follows rest items.2 hs)
            (follows rest' items'.2 hs') same
          obtain ⟨rfl, ended⟩ := ih items.2 items'.2 behind
          exact ⟨rfl, ended⟩

end TenantSettings.Text

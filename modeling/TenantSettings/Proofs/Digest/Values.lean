import TenantSettings.Proofs.Digest.Reading

/-!
# Where values end in what the digest covers

What the digest covers of a record ends with the stored form of what the record holds, and nothing
marks the end of that form. It shows its own end: as long as two stores list the same records, what
the digest covers is the same only if the records hold the same, whatever is covered after them.

* `Json.Closed.render_append_eq_iff`, `StoredValue.render_append_eq_iff`,
  `render_bundleJson_append_eq_iff`: stored forms with further text behind them.
* `ItemKey.content_append_eq_iff`: the step, what is covered of one record.
* `Store.covered_append_eq_iff`: the run, what is covered of records in a row.
* `StoredValue.render_delimited`: stored values, and the digest over any two stores.
-/

namespace TenantSettings

variable {s t : String}

/-! ### Stored forms -/

/-- Two texts that start with the texts of values that show their own end are the same only if the
values are, and what follows them. -/
lemma Json.Closed.render_append_eq_iff {v w : Json} (hv : Closed v) (hw : Closed w) :
    v.render ++ s = w.render ++ t ↔ v = w ∧ s = t := by
  constructor
  · intro same
    have chars : chars v ++ s.toList = chars w ++ t.toList := by
      simpa [render] using congrArg String.toList same
    obtain ⟨rfl, rest⟩ := hv.chars_append_inj hw chars
    exact ⟨rfl, String.toList_inj.mp rest⟩
  · rintro ⟨rfl, rfl⟩
    rfl

lemma StoredValue.render_append_eq_iff {v w : StoredValue} :
    v.render ++ s = w.render ++ t ↔ v = w ∧ s = t := by
  rw [render, render, v.closed_toJson.render_append_eq_iff w.closed_toJson]
  exact and_congr_left fun _ => ⟨fun same => toJson_faithful.injective same, congrArg toJson⟩

lemma render_bundleJson_append_eq_iff {m n : Option (OrderedMap String String)} :
    (bundleJson m).render ++ s = (bundleJson n).render ++ t ↔ m = n ∧ s = t := by
  rw [(closed_bundleJson m).render_append_eq_iff (closed_bundleJson n)]
  exact and_congr_left fun _ => ⟨bundleJson_inj, congrArg bundleJson⟩

/-! ### Records -/

/-- Over two stores a record holds the same, with the same behind it, exactly if the stores answer
alike what the digest asks about the record. -/
lemma ItemKey.content_append_eq_iff (k : ItemKey) (store store' : Store) :
    (k.content.run store).value ++ s = (k.content.run store').value ++ t
      ↔ (∀ q ∈ (k.content.run store).asked, store.answer q = store'.answer q) ∧ s = t := by
  -- what kind of record it is, and what it names, is the same over both stores
  rw [content]
  cases k.kind with
  | setting =>
      dsimp only
      cases k.setting? with
      | none => simp [Inquiry.run]
      | some x => simp [Inquiry.run, StoredValue.render_append_eq_iff]
  | localeBundle =>
      dsimp only
      cases bundleOfId? k.id with
      | none => simp [Inquiry.run]
      | some own => simp [Inquiry.run, render_bundleJson_append_eq_iff]
  | property => simp [Inquiry.run]

namespace Store

/-- What the digest covers of some records, one directly after the other. -/
def covered (store : Store) (l : List ItemKey) : String :=
  String.join (l.map fun k => (k.covered.run store).value)

lemma covered_cons (store : Store) (k : ItemKey) (l : List ItemKey) :
    store.covered (k :: l) = k.describe ++ ((k.content.run store).value ++ store.covered l) := by
  have one : (k.covered.run store).value = k.describe ++ (k.content.run store).value := by
    rw [ItemKey.covered, Inquiry.run_bind]
    rfl
  rw [covered, List.map_cons, String.join_cons, one, String.append_assoc]
  rfl

/-- Over two stores the digest covers the same of some records, with the same behind them, exactly
if the stores answer alike what the digest asks about the records. -/
lemma covered_append_eq_iff (store store' : Store) (l : List ItemKey) :
    store.covered l ++ s = store'.covered l ++ t
      ↔ (∀ k ∈ l, ∀ q ∈ (k.content.run store).asked, store.answer q = store'.answer q)
        ∧ s = t := by
  induction l with
  | nil => simp [covered]
  | cons k rest ih =>
      rw [covered_cons, covered_cons, String.append_assoc, String.append_assoc, String.append_assoc,
        String.append_assoc, String.append_right_inj, k.content_append_eq_iff, ih,
        List.forall_mem_cons, and_assoc]

end Store

/-- The compact text of a stored value shows its own end, whatever follows it. So it does in the
digest, which covers the records that a store lists one directly after the other: over two stores
that list some records in common, what is covered is the same from the first of them on exactly if
the stores hold the same for each of them and what is covered behind them is the same. -/
theorem StoredValue.render_delimited :
    (∀ (v w : StoredValue) (s t : String), v.render ++ s = w.render ++ t ↔ v = w ∧ s = t)
      ∧ (∀ store : Store, (coveredText.run store).value = store.covered (store.answer .modified))
      ∧ ∀ (store store' : Store) (l rest rest' : List ItemKey),
          store.covered (l ++ rest) = store'.covered (l ++ rest')
            ↔ (∀ k ∈ l, ∀ q ∈ (k.content.run store).asked, store.answer q = store'.answer q)
              ∧ store.covered rest = store'.covered rest' := by
  refine ⟨fun _ _ _ _ => render_append_eq_iff, value_coveredText_eq_join,
    fun store store' l rest rest' => ?_⟩
  have split : ∀ (store : Store) (rest : List ItemKey),
      store.covered (l ++ rest) = store.covered l ++ store.covered rest := by
    intro store rest
    rw [Store.covered, List.map_append, String.join_append]
    rfl
  rw [split, split, store.covered_append_eq_iff store' l]

end TenantSettings

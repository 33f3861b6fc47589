import Mathlib.Data.Finset.Card
import Mathlib.Data.List.Induction
import Mathlib.Data.List.Nodup
import TenantSettings.OrderedMap

/-!
# Maps that are made from lists

What a map made from a list with repetitions holds, in terms of the list, and how many entries a map
has.

* `eraseDups_concat`, `firstOccurrences_eraseDups`, `find?_eraseDups`: a list without its
  repetitions.
* `OrderedMap.keys_ofList`, `OrderedMap.mem_of_mem_ofList`: the keys and the entries of a map that
  is made from a list.
* `OrderedMap.get?_ofList`: of the entries under one key the last one counts.
* `OrderedMap.size_eq_card`: a map has as many entries as there are keys that a look-up finds.
-/

namespace TenantSettings

/-! ### Lists without repetitions -/

section lists

variable {α : Type} [DecidableEq α]

/-- A further item only counts if it was not there before. -/
lemma eraseDups_concat (l : List α) (a : α) :
    (l ++ [a]).eraseDups = if a ∈ l then l.eraseDups else l.eraseDups ++ [a] := by
  rw [List.eraseDups_append]
  by_cases h : a ∈ l
  · simp [List.removeAll, h]
  · simp [List.removeAll, h, List.eraseDups_cons]

/-- The items of a list, each once and in the order in which they first occur there. -/
structure FirstOccurrences (l firsts : List α) : Prop where
  mem_iff : ∀ a, a ∈ firsts ↔ a ∈ l
  ordered : firsts.Pairwise fun a b => l.idxOf a < l.idxOf b

/-- What is left without repetitions are the first occurrences. -/
lemma firstOccurrences_eraseDups (l : List α) : FirstOccurrences l l.eraseDups := by
  refine ⟨fun a => List.mem_eraseDups, ?_⟩
  induction l using List.reverseRecOn with
  | nil => simp
  | append_singleton l a ih =>
      have kept : ∀ {b}, b ∈ l.eraseDups → (l ++ [a]).idxOf b = l.idxOf b := fun mem =>
        List.idxOf_append_of_mem (List.mem_eraseDups.mp mem)
      have before : l.eraseDups.Pairwise fun b c => (l ++ [a]).idxOf b < (l ++ [a]).idxOf c :=
        ih.imp_of_mem fun hb hc lt => by rwa [kept hb, kept hc]
      rw [eraseDups_concat]
      split
      · exact before
      · next new =>
          refine List.pairwise_append.mpr ⟨before, List.pairwise_singleton _ a, fun b hb c hc => ?_⟩
          rw [List.mem_singleton.mp hc, kept hb, List.idxOf_append_of_notMem new]
          exact Nat.lt_add_right _ (List.idxOf_lt_length_of_mem (List.mem_eraseDups.mp hb))

namespace FirstOccurrences

variable {l firsts firsts' : List α}

lemma nodup (h : FirstOccurrences l firsts) : firsts.Nodup :=
  h.ordered.imp fun earlier same => earlier.ne (congrArg l.idxOf same)

/-- A list has its first occurrences in one order only. -/
lemma unique (h : FirstOccurrences l firsts) (h' : FirstOccurrences l firsts') :
    firsts = firsts' := by
  have perm : firsts.Perm firsts' := (List.perm_ext_iff_of_nodup h.nodup h'.nodup).mpr fun a =>
    (h.mem_iff a).trans (h'.mem_iff a).symm
  exact perm.eq_of_pairwise (fun a b _ _ earlier later => absurd earlier later.asymm) h.ordered
    h'.ordered

end FirstOccurrences

lemma nodup_eraseDups (l : List α) : l.eraseDups.Nodup := (firstOccurrences_eraseDups l).nodup

/-- Where nothing repeats, nothing is left out. -/
lemma eraseDups_of_nodup {l : List α} (h : l.Nodup) : l.eraseDups = l := by
  induction l using List.reverseRecOn with
  | nil => rfl
  | append_singleton l a ih =>
      obtain ⟨before, -, apart⟩ := List.nodup_append.mp h
      have new : a ∉ l := fun mem => apart a mem a List.mem_cons_self rfl
      rw [eraseDups_concat, if_neg new, ih before]

/-- Leaving out repetitions leaves the first item of a sort where it is. -/
lemma find?_eraseDups (p : α → Bool) (l : List α) : l.eraseDups.find? p = l.find? p := by
  induction l using List.reverseRecOn with
  | nil => rfl
  | append_singleton l a ih =>
      rw [eraseDups_concat, List.find?_append]
      split
      · next old =>
          rw [ih]
          cases found : l.find? p with
          | some b => rfl
          | none =>
              have other : p a = false := by
                simpa using List.find?_eq_none.mp found a old
              simp [other]
      · rw [List.find?_append, ih]

end lists

/-! ### Maps from lists with repetitions -/

namespace OrderedMap

variable {κ ν : Type} [DecidableEq κ]

lemma ofList_concat (l : List (κ × ν)) (e : κ × ν) :
    ofList (l ++ [e]) = (ofList l).insert e.1 e.2 :=
  List.foldl_concat _ _ _ _

/-- The keys of a map are those of the list that it is made from, each at its first occurrence. -/
lemma keys_ofList (l : List (κ × ν)) : (ofList l).keys = (l.map Prod.fst).eraseDups := by
  induction l using List.reverseRecOn with
  | nil => rfl
  | append_singleton l e ih =>
      rw [ofList_concat, keys_insert, ih, List.map_append, List.map_singleton, eraseDups_concat]
      exact if_congr List.mem_eraseDups rfl rfl

lemma mem_of_mem_insertEntry {k : κ} {v : ν} {e : κ × ν} {l : List (κ × ν)}
    (mem : e ∈ insertEntry k v l) : e = (k, v) ∨ e ∈ l := by
  induction l with
  | nil => exact .inl (List.mem_singleton.mp mem)
  | cons d rest ih =>
      unfold insertEntry at mem
      split at mem
      · rcases List.mem_cons.mp mem with new | old
        · exact .inl new
        · exact .inr (List.mem_cons_of_mem d old)
      · rcases List.mem_cons.mp mem with rfl | later
        · exact .inr List.mem_cons_self
        · exact (ih later).imp_right (List.mem_cons_of_mem d)

/-- An insertion among the entries whose keys satisfy `p`: it is made there, or it is not seen. -/
lemma filter_insertEntry (p : κ → Bool) (k : κ) (v : ν) (l : List (κ × ν)) :
    (insertEntry k v l).filter (fun e => p e.1)
      = if p k then insertEntry k v (l.filter fun e => p e.1) else l.filter fun e => p e.1 := by
  induction l with
  | nil => cases h : p k <;> simp [insertEntry, h]
  | cons e rest ih =>
      by_cases same : e.1 = k
      · cases h : p k <;> simp [insertEntry, same, h]
      · cases h : p e.1 <;> cases hk : p k <;> simp_all [insertEntry]

/-- The entries of a map are among those that it is made from. -/
lemma mem_of_mem_ofList {e : κ × ν} {l : List (κ × ν)} (mem : e ∈ (ofList l).entries) : e ∈ l := by
  induction l using List.reverseRecOn with
  | nil => cases mem
  | append_singleton l d ih =>
      rw [ofList_concat] at mem
      rcases mem_of_mem_insertEntry mem with rfl | old
      · exact List.mem_append_right l List.mem_cons_self
      · exact List.mem_append_left _ (ih old)

/-- The values that a list of entries has under a key, in order. -/
def valuesAt (k : κ) (l : List (κ × ν)) : List ν := (l.filter (·.1 = k)).map Prod.snd

/-- A look-up in a list of entries finds the first value under a key. -/
lemma lookup_eq_head? (k : κ) (l : List (κ × ν)) : l.lookup k = (valuesAt k l).head? := by
  induction l with
  | nil => rfl
  | cons e rest ih =>
      rw [lookup_entry_cons, ih]
      by_cases here : e.1 = k
      · simp [valuesAt, here]
      · simp [valuesAt, here, Ne.symm here]

/-- A map that is made from a list has the last value under a key. -/
lemma get?_ofList (k : κ) (l : List (κ × ν)) : (ofList l).get? k = (valuesAt k l).getLast? := by
  induction l using List.reverseRecOn with
  | nil => rfl
  | append_singleton l e ih =>
      rw [ofList_concat, get?_insert, ih]
      by_cases here : e.1 = k
      · simp [valuesAt, here]
      · simp [valuesAt, here, Ne.symm here]

/-- A map that is made from a list without repetitions has the list for its entries. -/
lemma entries_ofList {l : List (κ × ν)} (distinct : (l.map Prod.fst).Nodup) :
    (ofList l).entries = l := by
  rw [ofList, entries_foldl_insert l empty (by simpa [keys, empty] using distinct)]
  rfl

/-! ### Entries without repetitions -/

section distinct

variable {l l' : List (κ × ν)} (distinct : (l.map Prod.fst).Nodup)

include distinct

/-- Where no key repeats, a look-up finds the entries of the list. -/
lemma lookup_eq_some_iff {k : κ} {v : ν} : l.lookup k = some v ↔ (k, v) ∈ l := by
  constructor
  · intro found
    obtain ⟨before, after, rfl, -⟩ := List.lookup_eq_some_iff.mp found
    exact List.mem_append_right before List.mem_cons_self
  · exact fun mem => lookup_of_mem (e := (k, v)) distinct mem

/-- Where no key repeats, the order of the entries makes no difference to a look-up. -/
lemma lookup_perm (perm : l.Perm l') (k : κ) : l.lookup k = l'.lookup k := by
  have distinct' : (l'.map Prod.fst).Nodup := (perm.map Prod.fst).nodup_iff.mp distinct
  refine Option.ext fun v => ?_
  rw [lookup_eq_some_iff distinct, lookup_eq_some_iff distinct', perm.mem_iff]

/-- Where no key repeats, a look-up among the entries that are kept finds what is kept of what it
finds among all. -/
lemma lookup_filter (p : κ × ν → Bool) (k : κ) :
    (l.filter p).lookup k = (l.lookup k).filter fun v => p (k, v) := by
  have kept : ((l.filter p).map Prod.fst).Nodup := distinct.sublist (List.filter_sublist.map _)
  refine Option.ext fun v => ?_
  rw [lookup_eq_some_iff kept, List.mem_filter, Option.filter_eq_some_iff,
    lookup_eq_some_iff distinct]

end distinct

/-! ### Keys and counts -/

variable (m : OrderedMap κ ν)

omit [DecidableEq κ] in
/-- An image has the same keys. -/
lemma keys_map {μ : Type} (f : ν → μ) : (m.map f).keys = m.keys := by simp [keys, map]

/-- The keys of a map are what a look-up finds something under. -/
lemma mem_keys_iff {k : κ} : k ∈ m.keys ↔ (m.get? k).isSome := by
  constructor
  · intro mem
    obtain ⟨e, entry, rfl⟩ := List.mem_map.mp mem
    rw [get?_of_mem entry]
    rfl
  · intro found
    obtain ⟨v, hv⟩ := Option.isSome_iff_exists.mp found
    exact List.mem_map_of_mem (mem_of_get? hv)

/-- A map has as many entries as there are keys that a look-up finds something under. -/
lemma size_eq_card {keys : Finset κ} (h : ∀ k, (m.get? k).isSome ↔ k ∈ keys) :
    m.size = keys.card := by
  have distinct : m.keys.Nodup := m.nodup
  have same : m.keys.toFinset = keys := by
    ext k
    rw [List.mem_toFinset, mem_keys_iff, h]
  calc m.size = m.keys.length := (List.length_map Prod.fst).symm
    _ = m.keys.toFinset.card := (List.toFinset_card_of_nodup distinct).symm
    _ = keys.card := by rw [same]

/-- A map whose keys all occur in another is no larger. -/
lemma size_le {m n : OrderedMap κ ν} (h : ∀ k, (m.get? k).isSome → (n.get? k).isSome) :
    m.size ≤ n.size := by
  rw [m.size_eq_card fun k => (mem_keys_iff m).symm.trans List.mem_toFinset.symm,
    n.size_eq_card fun k => (mem_keys_iff n).symm.trans List.mem_toFinset.symm]
  refine Finset.card_le_card fun k mem => ?_
  rw [List.mem_toFinset, mem_keys_iff] at mem ⊢
  exact h k mem

end OrderedMap

end TenantSettings

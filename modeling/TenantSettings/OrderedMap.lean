/-!
# Maps in insertion order

A map whose keys keep the order of their first insertion.  Inserting under a key that is there
already changes its value in place.

* `get?_insert`: a look-up after an insertion; `get?_of_mem`: the look-up of an entry.
* `get?_map`, `map_insert`, `map_ofList`: look-ups and insertions in the image of a map.
* `keys_insert`: the keys after an insertion.
* `ofList_entries`: the entries of a map, inserted one by one, give the map back.
-/

namespace TenantSettings

/-- A map with its keys in the order of first insertion. -/
structure OrderedMap (κ ν : Type) where
  entries : List (κ × ν)
  nodup : (entries.map Prod.fst).Nodup
deriving DecidableEq, Repr

namespace OrderedMap

variable {κ ν : Type} [DecidableEq κ]

/-- The map without entries. -/
def empty : OrderedMap κ ν := ⟨[], by simp⟩

instance : Inhabited (OrderedMap κ ν) := ⟨empty⟩

omit [DecidableEq κ] in
/-- Maps with the same entries in the same order are the same. -/
theorem ext {m n : OrderedMap κ ν} (h : m.entries = n.entries) : m = n := by
  cases m
  cases n
  cases h
  rfl

/-- The keys in order of first insertion. -/
def keys (m : OrderedMap κ ν) : List κ := m.entries.map Prod.fst

/-- The values in the order of their keys. -/
def values (m : OrderedMap κ ν) : List ν := m.entries.map Prod.snd

/-- The value under a key. -/
def get? (m : OrderedMap κ ν) (k : κ) : Option ν := m.entries.lookup k

/-- Whether there is no entry. -/
def isEmpty (m : OrderedMap κ ν) : Bool := m.entries.isEmpty

/-- The number of entries. -/
def size (m : OrderedMap κ ν) : Nat := m.entries.length

/-- Entries with one put in: in place of the entry of the same key, else at the end. -/
def insertEntry (k : κ) (v : ν) : List (κ × ν) → List (κ × ν)
  | [] => [(k, v)]
  | e :: rest => if e.1 = k then (k, v) :: rest else e :: insertEntry k v rest

/-- The keys after an insertion: the old ones, and the new one at the end if it is new. -/
theorem map_fst_insertEntry (k : κ) (v : ν) (l : List (κ × ν)) :
    (insertEntry k v l).map Prod.fst
      = if k ∈ l.map Prod.fst then l.map Prod.fst else l.map Prod.fst ++ [k] := by
  induction l with
  | nil => simp [insertEntry]
  | cons e rest ih =>
    by_cases h : e.1 = k
    · simp [insertEntry, h]
    · have h' : ¬ k = e.1 := fun he => h he.symm
      simp only [insertEntry, h, if_false, List.map_cons, ih, List.mem_cons, h', false_or]
      split <;> simp

theorem nodup_insertEntry (k : κ) (v : ν) (l : List (κ × ν)) (h : (l.map Prod.fst).Nodup) :
    ((insertEntry k v l).map Prod.fst).Nodup := by
  rw [map_fst_insertEntry]
  split
  · exact h
  · next hk =>
    rw [List.nodup_append]
    refine ⟨h, by simp, ?_⟩
    intro a ha b hb hab
    rw [List.mem_singleton] at hb
    exact hk (hb ▸ hab ▸ ha)

/-- A map with a value put under a key. -/
def insert (m : OrderedMap κ ν) (k : κ) (v : ν) : OrderedMap κ ν :=
  ⟨insertEntry k v m.entries, nodup_insertEntry k v m.entries m.nodup⟩

/-- Entries inserted one by one: a repeated key keeps its first position and its last value. -/
def ofList (l : List (κ × ν)) : OrderedMap κ ν := l.foldl (fun m e => m.insert e.1 e.2) empty

/-- The map with every value replaced by its image. -/
def map {μ : Type} (f : ν → μ) (m : OrderedMap κ ν) : OrderedMap κ μ :=
  ⟨m.entries.map fun e => (e.1, f e.2), by simpa [Function.comp_def] using m.nodup⟩

/-- The entries whose value satisfies `p`. -/
def filterValues (p : ν → Bool) (m : OrderedMap κ ν) : OrderedMap κ ν :=
  ⟨m.entries.filter fun e => p e.2, m.nodup.sublist (List.Sublist.map _ List.filter_sublist)⟩

/-- The keys after an insertion. -/
theorem keys_insert (m : OrderedMap κ ν) (k : κ) (v : ν) :
    (m.insert k v).keys = if k ∈ m.keys then m.keys else m.keys ++ [k] :=
  map_fst_insertEntry k v m.entries

/-- A look-up in a list of entries meets the first entry of its key. -/
theorem lookup_entry_cons (j : κ) (e : κ × ν) (l : List (κ × ν)) :
    (e :: l).lookup j = if j = e.1 then some e.2 else l.lookup j := by
  obtain ⟨k, v⟩ := e
  by_cases h : j = k
  · simp [h]
  · simp [List.lookup_cons, beq_eq_false_iff_ne.2 h, h]

/-- Where no key repeats, an entry is found by its key. -/
theorem lookup_of_mem {e : κ × ν} {l : List (κ × ν)} (h : (l.map Prod.fst).Nodup) (mem : e ∈ l) :
    l.lookup e.1 = some e.2 := by
  induction l with
  | nil => cases mem
  | cons d rest ih =>
    rw [List.map_cons, List.nodup_cons] at h
    rw [lookup_entry_cons]
    rcases List.mem_cons.1 mem with rfl | later
    · rw [if_pos rfl]
    · have other : e.1 ≠ d.1 := fun same => h.1 (same ▸ List.mem_map_of_mem later)
      rw [if_neg other, ih h.2 later]

/-- An entry is found by its key. -/
theorem get?_of_mem {m : OrderedMap κ ν} {e : κ × ν} (mem : e ∈ m.entries) :
    m.get? e.1 = some e.2 :=
  lookup_of_mem m.nodup mem

/-- What a look-up finds is an entry. -/
theorem mem_of_get? {m : OrderedMap κ ν} {k : κ} {v : ν} (h : m.get? k = some v) :
    (k, v) ∈ m.entries := by
  obtain ⟨before, after, split, -⟩ := List.lookup_eq_some_iff.1 h
  rw [split]
  exact List.mem_append_right before List.mem_cons_self

theorem lookup_insertEntry (k j : κ) (v : ν) (l : List (κ × ν)) :
    (insertEntry k v l).lookup j = if j = k then some v else l.lookup j := by
  induction l with
  | nil => simp [insertEntry, lookup_entry_cons]
  | cons e rest ih =>
    by_cases h : e.1 = k
    · by_cases hj : j = k <;> simp [insertEntry, lookup_entry_cons, h, hj]
    · by_cases hj : j = e.1
      · subst hj
        simp [insertEntry, lookup_entry_cons, h]
      · simp [insertEntry, lookup_entry_cons, h, hj, ih]

/-- A look-up after an insertion. -/
theorem get?_insert (m : OrderedMap κ ν) (k j : κ) (v : ν) :
    (m.insert k v).get? j = if j = k then some v else m.get? j :=
  lookup_insertEntry k j v m.entries

/-- Putting in the value that is there already changes nothing. -/
theorem insertEntry_of_lookup (k : κ) (v : ν) (l : List (κ × ν)) (h : l.lookup k = some v) :
    insertEntry k v l = l := by
  induction l with
  | nil => simp at h
  | cons e rest ih =>
    rw [lookup_entry_cons] at h
    by_cases hk : e.1 = k
    · rw [if_pos hk.symm, Option.some.injEq] at h
      rw [insertEntry, if_pos hk, ← hk, ← h]
    · rw [if_neg (Ne.symm hk)] at h
      rw [insertEntry, if_neg hk, ih h]

/-- Inserting the value that is there already changes nothing. -/
theorem insert_of_get? (m : OrderedMap κ ν) (k : κ) (v : ν) (h : m.get? k = some v) :
    m.insert k v = m :=
  ext (insertEntry_of_lookup k v m.entries h)

/-- Putting in a key that is not there appends it. -/
theorem insertEntry_of_notMem (k : κ) (v : ν) (l : List (κ × ν)) (h : k ∉ l.map Prod.fst) :
    insertEntry k v l = l ++ [(k, v)] := by
  induction l with
  | nil => rfl
  | cons e rest ih =>
    simp only [List.map_cons, List.mem_cons, not_or] at h
    simp [insertEntry, Ne.symm h.1, ih h.2]

theorem entries_foldl_insert (l : List (κ × ν)) (m : OrderedMap κ ν)
    (h : (m.keys ++ l.map Prod.fst).Nodup) :
    (l.foldl (fun m e => m.insert e.1 e.2) m).entries = m.entries ++ l := by
  induction l generalizing m with
  | nil => simp
  | cons e rest ih =>
    have fresh : e.1 ∉ m.entries.map Prod.fst := by
      intro hm
      rw [List.nodup_append] at h
      exact h.2.2 _ hm _ (by simp) rfl
    have hk : (m.insert e.1 e.2).entries = m.entries ++ [e] := insertEntry_of_notMem _ _ _ fresh
    rw [List.foldl_cons, ih, hk]
    · simp
    · simpa [keys, hk] using h

/-- The entries of a map, inserted one by one, give the map back. -/
theorem ofList_entries (m : OrderedMap κ ν) : ofList m.entries = m := by
  refine ext ?_
  rw [ofList, entries_foldl_insert _ _ (by simpa [keys, empty] using m.nodup)]
  simp [empty]

/-! ### Images of maps -/

section image

variable {μ : Type} (f : ν → μ)

theorem lookup_map_entry (l : List (κ × ν)) (k : κ) :
    (l.map fun e => (e.1, f e.2)).lookup k = (l.lookup k).map f := by
  induction l with
  | nil => rfl
  | cons e rest ih =>
    rw [List.map_cons, lookup_entry_cons, lookup_entry_cons, ih]
    split <;> rfl

/-- A look-up in an image. -/
theorem get?_map (m : OrderedMap κ ν) (k : κ) : (m.map f).get? k = (m.get? k).map f :=
  lookup_map_entry f m.entries k

theorem map_insertEntry (k : κ) (v : ν) (l : List (κ × ν)) :
    (insertEntry k v l).map (fun e => (e.1, f e.2))
      = insertEntry k (f v) (l.map fun e => (e.1, f e.2)) := by
  induction l with
  | nil => rfl
  | cons e rest ih => by_cases h : e.1 = k <;> simp [insertEntry, h, ih]

/-- The image of a map with a value put under a key. -/
theorem map_insert (m : OrderedMap κ ν) (k : κ) (v : ν) :
    (m.insert k v).map f = (m.map f).insert k (f v) :=
  ext (map_insertEntry f k v m.entries)

theorem map_foldl_insert (l : List (κ × ν)) (m : OrderedMap κ ν) :
    (l.foldl (fun m e => m.insert e.1 e.2) m).map f
      = (l.map fun e => (e.1, f e.2)).foldl (fun m e => m.insert e.1 e.2) (m.map f) := by
  induction l generalizing m with
  | nil => rfl
  | cons e rest ih => rw [List.foldl_cons, ih, map_insert]; rfl

/-- The image of a map that is made from a list. -/
theorem map_ofList (l : List (κ × ν)) :
    (ofList l).map f = ofList (l.map fun e => (e.1, f e.2)) :=
  map_foldl_insert f l empty

omit [DecidableEq κ] in
/-- The image of the entries that are kept, where the image shows which are kept. -/
theorem map_filterValues {p : ν → Bool} {q : μ → Bool} (h : ∀ v, q (f v) = p v)
    (m : OrderedMap κ ν) : (m.filterValues p).map f = (m.map f).filterValues q := by
  refine ext ?_
  show (m.entries.filter fun e => p e.2).map _ = (m.entries.map _).filter fun e : κ × μ => q e.2
  rw [List.filter_map]
  simp [Function.comp_def, h]

omit [DecidableEq κ] in
/-- Only the map without entries has an image without entries. -/
theorem map_eq_empty_iff {m : OrderedMap κ ν} : m.map f = empty ↔ m = empty := by
  constructor
  · intro h
    exact ext (List.map_eq_nil_iff.1 (congrArg entries h))
  · rintro rfl
    rfl

omit [DecidableEq κ] in
/-- The image under the identity. -/
theorem map_id (m : OrderedMap κ ν) : m.map id = m := ext (List.map_id m.entries)

omit [DecidableEq κ] in
/-- The values of an image. -/
theorem values_map (m : OrderedMap κ ν) : (m.map f).values = m.values.map f := by
  simp [values, map, Function.comp_def]

omit [DecidableEq κ] in
/-- An image has as many entries. -/
theorem size_map (m : OrderedMap κ ν) : (m.map f).size = m.size := List.length_map _

omit [DecidableEq κ] in
/-- An image has entries exactly if the map has. -/
theorem isEmpty_map (m : OrderedMap κ ν) : (m.map f).isEmpty = m.isEmpty := List.isEmpty_map

end image

end OrderedMap

end TenantSettings

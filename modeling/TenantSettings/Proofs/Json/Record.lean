import TenantSettings.Json.Record
import TenantSettings.Proofs.Json.RoundTrip

/-!
# Parts of records in JSON

The parts that records are made of, each written and read back: texts, numbers, words, lists, maps,
optional parts, and the members of an object by their names.

* `Faithful`: what is written of a value is writable and read back; closed under lists
  (`Faithful.list`) and maps (`Faithful.map`).
* `uniqueMember_record`, `fields?_record`: the members of a record whose names differ are found.
-/

namespace TenantSettings.Json

variable {α : Type}

/-! ### What is written of a part -/

@[simp] lemma writable_null : Writable .null := .null

@[simp] lemma writable_bool (b : Bool) : Writable (.bool b) := .bool b

@[simp] lemma writable_text (s : String) : Writable (text s) := .string s

@[simp] lemma writable_nat (n : Nat) : Writable (nat n) := .integer false n (by simp)

/-- Only a negative integer is written with a sign. -/
@[simp] lemma writable_int (n : Int) : Writable (int n) := by
  refine .integer _ _ fun negative => ?_
  have below : n < 0 := of_decide_eq_true negative
  omega

@[simp] lemma writable_textOrNull (s : Option String) : Writable (textOrNull s) := by
  cases s with
  | none => exact .null
  | some s => exact .string s

/-- A record is writable if its members are. -/
lemma writable_record {members : List (String × Json)} (h : ∀ m ∈ members, Writable m.2) :
    Writable (record members) := by
  refine .object _ (fun m hm => ?_) (fun m hm => ?_)
  · obtain ⟨a, -, rfl⟩ := List.mem_map.mp hm
    rfl
  · obtain ⟨a, ha, rfl⟩ := List.mem_map.mp hm
    exact h a ha

/-! ### What is read of a part -/

@[simp] lemma text?_text (s : String) : text? (text s) = some s := rfl

@[simp] lemma bool?_bool (b : Bool) : bool? (.bool b) = some b := rfl

/-- An integer is read back with its sign. -/
lemma int?_int (n : Int) : int? (int n) = some n := by
  have value : (if n < 0 then -(n.natAbs : Int) else n.natAbs) = n := by
    split <;> omega
  rw [int, int?]
  simp only [decide_eq_true_eq, value]

/-- Every integer of 64 bits is read back. -/
@[simp] lemma int64?_int (n : Int64) : int64? (int n.toInt) = some n := by
  have range : Int64.minValue.toInt ≤ n.toInt ∧ n.toInt ≤ Int64.maxValue.toInt :=
    ⟨n.minValue_le_toInt, n.toInt_le⟩
  rw [int64?, int?_int, Option.bind_eq_bind, Option.bind_some, if_pos range, Int64.ofInt_toInt]

/-- Every natural number of 32 bits is read back. -/
@[simp] lemma uint32?_nat (n : UInt32) : uint32? (nat n.toNat) = some n := by
  have number : int? (nat n.toNat) = some (n.toNat : Int) := rfl
  have range : 0 ≤ (n.toNat : Int) ∧ (n.toNat : Int) < UInt32.size :=
    ⟨Int.natCast_nonneg _, Int.ofNat_lt.mpr n.toNat_lt_size⟩
  rw [uint32?, number, Option.bind_eq_bind, Option.bind_some, if_pos range, Int.toNat_natCast,
    UInt32.ofNat_toNat]

/-- An optional text is read back, null for none. -/
@[simp] lemma optional?_textOrNull (s : Option String) :
    optional? text? (textOrNull s) = some s := by
  cases s <;> rfl

/-- A word is read back where the words of its type differ, whether its text was kept or not. -/
lemma literal?_text [Literal α] (kept : Bool) {a : α} (mem : a ∈ (Literal.all : List α))
    (distinct : ((Literal.all : List α).map Literal.text).Nodup) :
    literal? kept (text (Literal.text a)) = some a :=
  Literal.ofText?_text mem distinct

/-! ### Faithful forms -/

/-- What is written of every value is writable, and it is read back as the value. -/
structure Faithful (write : α → Json) (read : Json → Option α) : Prop where
  writable : ∀ a, Writable (write a)
  readBack : ∀ a, read (write a) = some a

namespace Faithful

/-- Values that are written alike are the same. -/
lemma injective {write : α → Json} {read : Json → Option α} (h : Faithful write read) {a b : α}
    (same : write a = write b) : a = b := by
  have back := h.readBack a
  rw [same, h.readBack] at back
  exact (Option.some.inj back).symm

lemma text : Faithful Json.text text? := ⟨writable_text, text?_text⟩

variable {write : α → Json} {read : Json → Option α}

/-- A list is read back if each of its items is. -/
lemma list (h : Faithful write read) : Faithful (fun l => .array (l.map write)) (list? read) := by
  refine ⟨fun l => .array _ fun v hv => ?_, fun l => ?_⟩
  · obtain ⟨a, -, rfl⟩ := List.mem_map.mp hv
    exact h.writable a
  · show (l.map write).mapM read = some l
    induction l with
    | nil => rfl
    | cons a rest ih => simp [h.readBack, ih]

lemma texts : Faithful Json.texts (list? text?) := text.list

/-- A map is read back in its order if each of its values is. -/
lemma map (h : Faithful write read) :
    Faithful (fun m : OrderedMap String α => record (m.entries.map fun e => (e.1, write e.2)))
      (map? read) := by
  refine ⟨fun m => writable_record fun e he => ?_, fun m => ?_⟩
  · obtain ⟨a, -, rfl⟩ := List.mem_map.mp he
    exact h.writable a.2
  · have named : ∀ l : List (String × α),
        (l.map fun e => ((some e.1 : JsonText), write e.2)).mapM (namedItem? read) = some l := by
      intro l
      induction l with
      | nil => rfl
      | cons e rest ih => simp [namedItem?, h.readBack, ih]
    simp [map?, record, named, Function.comp_def, OrderedMap.ofList_entries]

end Faithful

/-! ### Members by name -/

variable {members : List (String × Json)}

/-- The members of one name, in a list where names differ. -/
lemma filter_name (distinct : (members.map Prod.fst).Nodup) {name : String} {v : Json}
    (mem : (name, v) ∈ members) :
    (members.map fun m => ((some m.1 : JsonText), m.2)).filter (fun m => m.1 == some name)
      = [(some name, v)] := by
  induction members with
  | nil => cases mem
  | cons m rest ih =>
      rw [List.map_cons, List.nodup_cons] at distinct
      -- the name is that of the first member or of a later one, but not of both
      rcases List.mem_cons.mp mem with rfl | later
      · have absent : (rest.map fun m => ((some m.1 : JsonText), m.2)).filter
            (fun m => m.1 == some name) = [] := by
          rw [List.filter_eq_nil_iff]
          intro n hn
          obtain ⟨k, hk, rfl⟩ := List.mem_map.mp hn
          have there : k.1 ∈ rest.map Prod.fst := List.mem_map_of_mem hk
          have other : k.1 ≠ name := fun same => distinct.1 (same ▸ there)
          simpa using other
        rw [List.map_cons, List.filter_cons_of_pos (by simp), absent]
      · have there : name ∈ rest.map Prod.fst := List.mem_map_of_mem (f := Prod.fst) later
        have other : m.1 ≠ name := fun same => distinct.1 (same ▸ there)
        rw [List.map_cons, List.filter_cons_of_neg (by simpa using other)]
        exact ih distinct.2 later

/-- Where names differ, a member is found by its own. -/
lemma uniqueMember_record (distinct : (members.map Prod.fst).Nodup) {name : String} {v : Json}
    (mem : (name, v) ∈ members) :
    uniqueMember name (members.map fun m => (some m.1, m.2)) = some (some v) := by
  rw [uniqueMember, filter_name distinct mem]

/-- A record whose names differ has all its fields. -/
lemma fields?_record {names : List String} (named : members.map Prod.fst = names)
    (distinct : names.Nodup) :
    fields? names (record members) = some (members.map fun m => some m.2) := by
  subst named
  have texts : (members.map fun m => ((some m.1 : JsonText), m.2)).all (·.1.isSome) = true := by
    simp
  -- each name finds its own member among all members, not only among those behind it
  have found : ∀ l : List (String × Json), (∀ m ∈ l, m ∈ members) →
      ((l.map Prod.fst).mapM fun name =>
          uniqueMember name (members.map fun m => ((some m.1 : JsonText), m.2)))
        = some (l.map fun m => some m.2) := by
    intro l sub
    induction l with
    | nil => rfl
    | cons m rest ih =>
        have here := uniqueMember_record distinct (sub m List.mem_cons_self)
        have others := ih fun n hn => sub n (List.mem_cons_of_mem m hn)
        simp only [List.map_cons, List.mapM_cons, here, others]
        rfl
  rw [record, fields?, if_pos texts]
  exact found members fun m hm => hm

end TenantSettings.Json

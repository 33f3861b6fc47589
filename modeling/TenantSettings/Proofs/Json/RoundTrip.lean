import TenantSettings.Proofs.Json.Lexical

/-!
# JSON text is read back

A value that is written compactly is read back as itself, members in their order and repeated ones
included, unless it holds what no text stands for.

* `Writable`: the values whose text stands for them.
* `value_chars`: a writable value is read back in front of any further text that may follow one.
* `Closed`: the values that are read back in front of any text at all, because their text shows its
  own end; `Closed.chars_append_inj`: two such texts with further text behind them are told apart.
* `parse_render`: the text of a writable value is read back.
-/

namespace TenantSettings.Json

/-- A value whose text stands for it: every string is a text, and no integer is minus zero. -/
inductive Writable : Json → Prop where
  | null : Writable .null
  | bool (b : Bool) : Writable (.bool b)
  | integer (negative : Bool) (n : Nat) (h : negative = true → n ≠ 0) :
      Writable (.integer negative n)
  | decimal (negative : Bool) (m : Nat) (e : Int) : Writable (.decimal negative m e)
  | string (s : String) : Writable (.string (some s))
  | array (items : List Json) (h : ∀ v ∈ items, Writable v) : Writable (.array items)
  | object (members : List (JsonText × Json)) (names : ∀ m ∈ members, m.1.isSome)
      (values : ∀ m ∈ members, Writable m.2) : Writable (.object members)

/-! ### The first character of a value -/

/-- A character that a value may start with: no blank, and not the end of an array. -/
def Opening (c : Char) : Prop := isBlank c = false ∧ c ≠ ']'

lemma opening_of_isDigit {c : Char} (h : isDigit c = true) : Opening c := by
  constructor
  · cases white : isBlank c with
    | false => rfl
    | true =>
        simp only [isBlank, Bool.or_eq_true, decide_eq_true_eq] at white
        rcases white with ((rfl | rfl) | rfl) | rfl <;> cases h
  · rintro rfl
    cases h

/-- The text of a signed number starts with its sign or a digit. -/
lemma exists_signed (negative : Bool) (n : Nat) (rest : List Char) :
    ∃ c cs, signChars negative ++ (natChars n ++ rest) = c :: cs
      ∧ (c = '-' ∨ isDigit c = true) := by
  cases negative with
  | true => exact ⟨'-', natChars n ++ rest, rfl, .inl rfl⟩
  | false =>
      obtain ⟨d, ds, front, digit⟩ := exists_natChars n
      exact ⟨d, ds ++ rest, by rw [front]; rfl, .inr digit⟩

lemma opening_of_signed {c : Char} (h : c = '-' ∨ isDigit c = true) : Opening c := by
  rcases h with rfl | digit
  · exact ⟨rfl, by decide⟩
  · exact opening_of_isDigit digit

/-- The text of a value starts where the value does. -/
lemma exists_chars (v : Json) : ∃ c cs, chars v = c :: cs ∧ Opening c := by
  cases v with
  | null => exact ⟨'n', _, rfl, rfl, by decide⟩
  | bool b => cases b <;> exact ⟨_, _, rfl, rfl, by decide⟩
  | integer negative n =>
      obtain ⟨c, cs, front, signed⟩ := exists_signed negative n []
      rw [List.append_nil] at front
      exact ⟨c, cs, front, opening_of_signed signed⟩
  | decimal negative m e =>
      obtain ⟨c, cs, front, signed⟩ := exists_signed negative m ('e' :: intChars e)
      rw [← List.append_assoc] at front
      exact ⟨c, cs, front, opening_of_signed signed⟩
  | string s => exact ⟨'"', _, rfl, rfl, by decide⟩
  | array items => exact ⟨'[', _, rfl, rfl, by decide⟩
  | object members => exact ⟨'{', _, rfl, rfl, by decide⟩

/-! ### Reading back -/

/-- The text of the value is read back in front of any text that may follow a value. -/
def ReadBack (v : Json) : Prop :=
  ∀ (fuel : Nat) (rest : List Char), (chars v).length ≤ fuel → Delimited rest →
    value (fuel + 1) (chars v ++ rest) = some (v, rest)

/-- The text of the value is read back in front of any text at all: only numbers need an end. -/
def Closed (v : Json) : Prop :=
  ∀ (fuel : Nat) (rest : List Char), (chars v).length ≤ fuel →
    value (fuel + 1) (chars v ++ rest) = some (v, rest)

lemma Closed.readBack {v : Json} (h : Closed v) : ReadBack v :=
  fun fuel rest enough _ => h fuel rest enough

/-- A text that starts with a sign or a digit is read as a number. -/
lemma value_signed {c : Char} (h : c = '-' ∨ isDigit c = true) (fuel : Nat) (cs : List Char) :
    value (fuel + 1) (c :: cs) = number (c :: cs) := by
  have front : skipBlanks (c :: cs) = c :: cs := by
    simp [skipBlanks, (opening_of_signed h).1]
  rw [value, front]
  split
  all_goals first
    | rfl
    | next same =>
        cases same
        rcases h with h | h <;> cases h

lemma readBack_integer {negative : Bool} {n : Nat} (h : negative = true → n ≠ 0) :
    ReadBack (.integer negative n) := by
  intro fuel rest enough ends
  obtain ⟨c, cs, front, signed⟩ := exists_signed negative n rest
  rw [chars, List.append_assoc, front, value_signed signed, ← front, number_signed,
    magnitude_integer h ends]

lemma readBack_decimal (negative : Bool) (m : Nat) (e : Int) :
    ReadBack (.decimal negative m e) := by
  intro fuel rest enough ends
  obtain ⟨c, cs, front, signed⟩ := exists_signed negative m ('e' :: (intChars e ++ rest))
  have text : chars (.decimal negative m e) ++ rest
      = signChars negative ++ (natChars m ++ 'e' :: (intChars e ++ rest)) := by
    simp [chars]
  rw [text, front, value_signed signed, ← front, number_signed, magnitude_decimal _ _ _ ends]

lemma closed_null : Closed .null := fun _ _ _ => rfl

lemma closed_bool (b : Bool) : Closed (.bool b) := by
  cases b <;> exact fun _ _ _ => rfl

lemma closed_string (s : String) : Closed (.string (some s)) := by
  intro fuel rest enough
  have text : chars (.string (some s)) ++ rest
      = '"' :: (s.toList.flatMap escapeChar ++ '"' :: rest) := by
    simp [chars, stringChars]
  rw [text]
  show (stringBody _ >>= fun p => some (Json.string p.1, p.2)) = _
  rw [stringBody_escaped]
  rfl

/-- The items of an array are read back one by one. -/
lemma items_itemsChars (v : Json) (vs : List Json) (h : ∀ w ∈ v :: vs, ReadBack w) (fuel : Nat)
    (rest : List Char) (enough : (itemsChars (v :: vs)).length ≤ fuel) :
    items (fuel + 1) (itemsChars (v :: vs) ++ rest) = some (v :: vs, rest) := by
  -- on the items behind the first one, which is read up to a comma or the closing bracket
  induction vs generalizing v fuel with
  | nil =>
      simp only [itemsChars, List.length_append, List.length_singleton] at enough
      obtain ⟨f, rfl⟩ : ∃ f, fuel = f + 1 := ⟨fuel - 1, by omega⟩
      have first := h v (by simp) f (']' :: rest) (by omega) (by simp [Delimited])
      simp only [itemsChars, List.append_assoc, List.singleton_append]
      rw [items, first]
      rfl
  | cons w ws ih =>
      simp only [itemsChars, List.length_append, List.length_cons] at enough
      obtain ⟨f, rfl⟩ : ∃ f, fuel = f + 1 := ⟨fuel - 1, by omega⟩
      have first := h v (by simp) f (',' :: (itemsChars (w :: ws) ++ rest)) (by omega)
        (by simp [Delimited])
      have others := ih w (fun u hu => h u (List.mem_cons_of_mem v hu)) f (by omega)
      simp only [itemsChars, List.append_assoc, List.cons_append]
      rw [items, first]
      show (items (f + 1) (itemsChars (w :: ws) ++ rest) >>= fun p => some (v :: p.1, p.2)) = _
      rw [others]
      rfl

/-- The items of an array start where the first of them does. -/
lemma exists_itemsChars (v : Json) (vs : List Json) :
    ∃ c cs, itemsChars (v :: vs) = c :: cs ∧ Opening c := by
  obtain ⟨c, cs, front, opening⟩ := exists_chars v
  cases vs with
  | nil => exact ⟨c, cs ++ [']'], by rw [itemsChars, front]; rfl, opening⟩
  | cons w ws =>
      exact ⟨c, cs ++ ',' :: itemsChars (w :: ws), by rw [itemsChars, front]; rfl, opening⟩

lemma closed_array {vs : List Json} (h : ∀ v ∈ vs, ReadBack v) : Closed (.array vs) := by
  intro fuel rest enough
  cases vs with
  | nil => rfl
  | cons v vs =>
      rw [chars, List.length_cons] at enough
      obtain ⟨f, rfl⟩ : ∃ f, fuel = f + 1 := ⟨fuel - 1, by omega⟩
      -- an item never starts with the closing bracket, so the array is not taken for an empty one
      obtain ⟨c, cs, front, white, bracket⟩ := exists_itemsChars v vs
      have read := items_itemsChars v vs h f rest (by omega)
      have outer : skipBlanks ('[' :: (itemsChars (v :: vs) ++ rest))
          = '[' :: (itemsChars (v :: vs) ++ rest) := rfl
      have inner : skipBlanks (itemsChars (v :: vs) ++ rest) = c :: (cs ++ rest) := by
        rw [front]
        simp [skipBlanks, white]
      rw [chars, List.cons_append, value, outer]
      simp only [inner, read]
      split
      · next same =>
          cases same
          exact absurd rfl bracket
      · rfl

/-- The name of a member is read up to the colon behind it. -/
lemma members_stringChars (name : String) (fuel : Nat) (rest : List Char) :
    members (fuel + 1) (stringChars name ++ ':' :: rest) =
      (value fuel rest >>= fun p => match skipBlanks p.2 with
        | ',' :: rest => members fuel rest >>= fun q => some ((some name, p.1) :: q.1, q.2)
        | '}' :: rest => some ([(some name, p.1)], rest)
        | _ => none) := by
  have text : stringChars name ++ ':' :: rest
      = '"' :: (name.toList.flatMap escapeChar ++ '"' :: ':' :: rest) := by
    simp [stringChars]
  rw [text, members]
  show (stringBody (name.toList.flatMap escapeChar ++ '"' :: ':' :: rest) >>= _) = _
  rw [stringBody_escaped]
  rfl

/-- The members of an object are read back one by one. -/
lemma members_membersChars (m : JsonText × Json) (ms : List (JsonText × Json))
    (names : ∀ n ∈ m :: ms, n.1.isSome) (values : ∀ n ∈ m :: ms, ReadBack n.2) (fuel : Nat)
    (rest : List Char) (enough : (membersChars (m :: ms)).length ≤ fuel) :
    members (fuel + 1) (membersChars (m :: ms) ++ rest) = some (m :: ms, rest) := by
  -- on the members behind the first one; each takes a unit of the fuel, and the text is longer
  induction ms generalizing m fuel with
  | nil =>
      obtain ⟨name, v⟩ := m
      obtain ⟨name, rfl⟩ := Option.isSome_iff_exists.mp (names (name, v) (by simp))
      simp only [membersChars, List.length_append, List.length_cons] at enough
      obtain ⟨f, rfl⟩ : ∃ f, fuel = f + 1 := ⟨fuel - 1, by omega⟩
      have readBack : ReadBack v := values (some name, v) (by simp)
      have first := readBack f ('}' :: rest) (by omega) (by simp [Delimited])
      simp only [membersChars, Option.getD_some, List.append_assoc, List.cons_append,
        List.nil_append]
      rw [members_stringChars, first]
      rfl
  | cons n ns ih =>
      obtain ⟨name, v⟩ := m
      obtain ⟨name, rfl⟩ := Option.isSome_iff_exists.mp (names (name, v) (by simp))
      simp only [membersChars, List.length_append, List.length_cons] at enough
      obtain ⟨f, rfl⟩ : ∃ f, fuel = f + 1 := ⟨fuel - 1, by omega⟩
      have readBack : ReadBack v := values (some name, v) (by simp)
      have first := readBack f (',' :: (membersChars (n :: ns) ++ rest)) (by omega)
        (by simp [Delimited])
      have others := ih n (fun u hu => names u (List.mem_cons_of_mem _ hu))
        (fun u hu => values u (List.mem_cons_of_mem _ hu)) f (by omega)
      simp only [membersChars, Option.getD_some, List.append_assoc, List.cons_append]
      rw [members_stringChars, first]
      show (members (f + 1) (membersChars (n :: ns) ++ rest)
        >>= fun q => some ((some name, v) :: q.1, q.2)) = _
      rw [others]
      rfl

lemma closed_object {ms : List (JsonText × Json)} (names : ∀ m ∈ ms, m.1.isSome)
    (values : ∀ m ∈ ms, ReadBack m.2) : Closed (.object ms) := by
  intro fuel rest enough
  cases ms with
  | nil => rfl
  | cons m ms =>
      rw [chars, List.length_cons] at enough
      obtain ⟨f, rfl⟩ : ∃ f, fuel = f + 1 := ⟨fuel - 1, by omega⟩
      have read := members_membersChars m ms names values f rest (by omega)
      obtain ⟨cs, front⟩ : ∃ cs, membersChars (m :: ms) = '"' :: cs := by
        cases ms <;> exact ⟨_, rfl⟩
      have outer : skipBlanks ('{' :: (membersChars (m :: ms) ++ rest))
          = '{' :: (membersChars (m :: ms) ++ rest) := rfl
      have inner : skipBlanks (membersChars (m :: ms) ++ rest) = '"' :: (cs ++ rest) := by
        rw [front]
        rfl
      rw [chars, List.cons_append, value, outer]
      simp only [inner, read]
      rfl

/-- A writable value is read back in front of any text that may follow a value. -/
theorem value_chars {v : Json} (h : Writable v) : ReadBack v := by
  induction h with
  | null => exact closed_null.readBack
  | bool b => exact (closed_bool b).readBack
  | integer negative n h => exact readBack_integer h
  | decimal negative m e => exact readBack_decimal negative m e
  | string s => exact (closed_string s).readBack
  | array items h ih => exact (closed_array ih).readBack
  | object members names values ih => exact (closed_object names ih).readBack

/-- An object shows its own end, whatever its members are. -/
lemma Writable.closed_object {ms : List (JsonText × Json)} (h : Writable (.object ms)) :
    Closed (.object ms) := by
  cases h with
  | object _ names values => exact Json.closed_object names fun m hm => value_chars (values m hm)

/-- Texts of values that show their own end are told apart in front of whatever follows them. -/
theorem Closed.chars_append_inj {v w : Json} (hv : Closed v) (hw : Closed w) {s t : List Char}
    (same : chars v ++ s = chars w ++ t) : v = w ∧ s = t := by
  have left := hv ((chars v).length + (chars w).length) s (by omega)
  have right := hw ((chars v).length + (chars w).length) t (by omega)
  rw [same, right, Option.some.injEq, Prod.mk.injEq] at left
  exact ⟨left.1.symm, left.2.symm⟩

/-- The text of a writable value is read back as the value. -/
theorem parse_render {v : Json} (h : Writable v) : parse (render v) = some v := by
  have read := value_chars h (2 * (chars v).length + 1) [] (by omega) (by simp [Delimited])
  rw [List.append_nil] at read
  rw [parse, render, String.toList_ofList, parseChars, read]
  rfl

end TenantSettings.Json

import Mathlib.Data.List.Basic
import TenantSettings.Proofs.Read
import TenantSettings.Proofs.Text.Split
import TenantSettings.Setting.Schema
import TenantSettings.Store.Snapshot
import TenantSettings.Tenant.Request

/-!
# Places where data is stored

The places where data is stored are written as words between dashes. Words that name no place are
passed over, each with an event, and empty ones silently, so that nothing that is put in between
changes which places are read.

* `storageLiterals`: the words of a text, the empty ones left out; `storageLiterals_joinWith`: what
  is joined is found again.
* `Tenant.carryOut_storageLocations`: the places that a setting names, and what is logged, in terms
  of the words.
* `Tenant.serve_storageLocations`: a text in which some words name places and the others do not.
-/

namespace TenantSettings

namespace StorageMethod

/-- A method is found by its own word. -/
lemma ofText?_text (method : StorageMethod) :
    (Literal.ofText? (Literal.text method) : Option StorageMethod) = some method :=
  Literal.ofText?_text (by cases method <;> decide) (by decide)

/-- The word of a method is not empty and holds no dash. -/
lemma text_proper (method : StorageMethod) :
    Literal.text method ≠ "" ∧ '-' ∉ (Literal.text method).toList := by
  cases method <;> decide

end StorageMethod

/-! ### The words of a text -/

/-- The words of a text between dashes, the empty ones left out. -/
def storageLiterals (text : String) : List String :=
  (Text.segments (· == '-') text.toList).map String.ofList

/-- Of words without dashes that are joined by dashes, those that are not empty are found again. -/
lemma storageLiterals_joinWith {words : List String} (free : ∀ word ∈ words, '-' ∉ word.toList) :
    storageLiterals (Text.joinWith "-" words) = words.filter (· ≠ "") := by
  have parts : ∀ part ∈ words.map String.toList, ∀ d ∈ part, (d == '-') = false := by
    intro part mem d hd
    obtain ⟨word, among, rfl⟩ := List.mem_map.mp mem
    exact beq_false_of_ne fun dash => free word among (dash ▸ hd)
  rw [storageLiterals, Text.joinWith, String.toList_ofList]
  show (Text.segments _ (Text.join ['-'] _)).map _ = _
  rw [Text.segments_join_free rfl parts, List.filter_map, List.map_map]
  have same : String.ofList ∘ String.toList = id := funext fun word => String.ofList_toList
  rw [same, List.map_id]
  refine List.filter_congr fun word _ => Bool.eq_iff_iff.mpr ?_
  simp

namespace Tenant

/-- The event of a word that names no place. -/
def unknownStorage (t : Tenant) (s : Setting) (word : String) : Event :=
  ⟨.error, "unknown STORAGE_METHOD found: " ++ word, [("domain", t.domain), ("setting", s.key)]⟩

variable {store : Store} {s : Setting} {text : String}

/-- A text or a choice outside of all profiles is read by one question. -/
lemma carryOut_plain_text (t : Tenant) (plain : s.isProfiled = false)
    (stored : store.answer (.value s none) = .text text
      ∨ store.answer (.value s none) = .choice text) :
    (t.plain.text s).carryOut store = ⟨.ok text, [.value s none], []⟩ := by
  have scope : t.plain.scope s = .ok none := by simp [Reader.scope, plain]
  rw [Reader.text, Reader.carryOut_read, scope]
  dsimp only
  rcases stored with stored | stored
  · rw [stored]
    rfl
  · rw [stored]
    rfl

/-- What is logged about a word. -/
def storageEvents (t : Tenant) (s : Setting) : Except String StorageMethod → List Event
  | .ok _ => []
  | .error word => [t.unknownStorage s word]

/-- The places that a setting names are those of its words, in order, and every word that names none
is logged. -/
lemma carryOut_storageLocations (t : Tenant) (plain : s.isProfiled = false)
    (stored : store.answer (.value s none) = .text text
      ∨ store.answer (.value s none) = .choice text) :
    (t.storageLocations s).carryOut store
      = ⟨.ok ((storageLiterals text).filterMap Literal.ofText?), [.value s none],
        ((storageLiterals text).filter fun word =>
          (Literal.ofText? word : Option StorageMethod).isNone).map (t.unknownStorage s)⟩ := by
  -- the loop keeps the words that it can look up and logs the others, in one pass over the words
  have methods : (storageWords text).filterMap (·.toOption)
      = (storageLiterals text).filterMap Literal.ofText? := by
    rw [storageWords, storageLiterals, List.filterMap_map, List.filterMap_map]
    refine List.filterMap_congr fun word _ => ?_
    dsimp only [Function.comp]
    cases (Literal.ofText? (String.ofList word) : Option StorageMethod) <;> rfl
  have events : (storageWords text).flatMap (t.storageEvents s)
      = ((storageLiterals text).filter fun word =>
          (Literal.ofText? word : Option StorageMethod).isNone).map (t.unknownStorage s) := by
    rw [storageWords, storageLiterals]
    induction Text.segments (· == '-') text.toList with
    | nil => rfl
    | cons word rest ih =>
        rw [List.map_cons, List.flatMap_cons, ih, List.map_cons]
        cases found : (Literal.ofText? (String.ofList word) : Option StorageMethod) with
        | none => rw [List.filter_cons_of_pos (by simp [found])]; rfl
        | some method => rw [List.filter_cons_of_neg (by simp [found])]; rfl
  -- with both parts known for the whole list, the loop runs by the law for reads in a row
  unfold storageLocations
  rw [Read.carryOut_bind, t.carryOut_plain_text plain stored]
  dsimp only [Outcome.followedBy]
  rw [Read.carryOut_bind, Read.carryOut_forIn_yield store _ (t.storageEvents s), events]
  · dsimp only [Outcome.followedBy]
    rw [Read.carryOut_pure, methods]
    simp only [List.nil_append, List.append_nil]
  · intro word
    cases word <;> rfl

/-! ### Words that name places among others -/

/-- The word of a method, or any other. -/
def storageToken : StorageMethod ⊕ String → String
  | .inl method => Literal.text method
  | .inr word => word

/-- A word without a dash that is empty or names no method. -/
def IsNoise (word : String) : Prop :=
  '-' ∉ word.toList ∧ (word = "" ∨ (Literal.ofText? word : Option StorageMethod) = none)

lemma IsNoise.ofText? {word : String} (noise : IsNoise word) :
    (Literal.ofText? word : Option StorageMethod) = none := by
  rcases noise.2 with rfl | unknown
  · decide
  · exact unknown

section tokens

variable {tokens : List (StorageMethod ⊕ String)}
  (noise : ∀ word, .inr word ∈ tokens → IsNoise word)

include noise

/-- The words of the methods are found again among the others, -/
lemma methods_of_tokens :
    ((tokens.map storageToken).filter (· ≠ "")).filterMap Literal.ofText?
      = tokens.filterMap Sum.getLeft? := by
  rw [List.filterMap_filter, List.filterMap_map]
  refine List.filterMap_congr fun token mem => ?_
  cases token with
  | inl method => simp [storageToken, method.text_proper.1, method.ofText?_text]
  | inr word => simp [storageToken, (noise word mem).ofText?]

/-- and so are the others among them. -/
lemma unknown_of_tokens :
    ((tokens.map storageToken).filter (· ≠ "")).filter (fun word =>
        (Literal.ofText? word : Option StorageMethod).isNone)
      = (tokens.filterMap Sum.getRight?).filter (· ≠ "") := by
  rw [List.filter_filter, ← List.filterMap_eq_filter, ← List.filterMap_eq_filter,
    List.filterMap_map, List.filterMap_filterMap]
  refine List.filterMap_congr fun token mem => ?_
  cases token with
  | inl method => simp [storageToken, method.ofText?_text, Option.guard]
  | inr word =>
      by_cases empty : word = "" <;>
        simp [storageToken, (noise word mem).ofText?, Option.guard, empty]

/-- No word of such a text holds a dash. -/
lemma free_of_tokens : ∀ word ∈ tokens.map storageToken, '-' ∉ word.toList := by
  intro word mem
  obtain ⟨token, among, rfl⟩ := List.mem_map.mp mem
  cases token with
  | inl method => exact method.text_proper.2
  | inr other => exact (noise other among).1

end tokens

/-- A text of storage methods, joined by dashes, with words that are none put in anywhere, names
those methods in order, as often as they stand there; the words that were put in are logged, each
once and in order, but for the empty ones. Nothing else is asked or logged, and the memory is left
as it is. -/
theorem serve_storageLocations (t : Tenant) (m : Memory) (plain : s.isProfiled = false)
    {tokens : List (StorageMethod ⊕ String)} (noise : ∀ word, .inr word ∈ tokens → IsNoise word)
    (stored : store.answer (.value s none) = .text (Text.joinWith "-" (tokens.map storageToken))
      ∨ store.answer (.value s none) = .choice (Text.joinWith "-" (tokens.map storageToken))) :
    t.serve store m (.storageLocations s)
      = ⟨(.ok (tokens.filterMap Sum.getLeft?), m), [.value s none],
        ((tokens.filterMap Sum.getRight?).filter (· ≠ "")).map fun word =>
          ⟨.error, "unknown STORAGE_METHOD found: " ++ word,
            [("domain", t.domain), ("setting", s.key)]⟩⟩ := by
  show (Call.ofRead (t.storageLocations s)).carryOut store m = _
  rw [Call.carryOut_ofRead, t.carryOut_storageLocations plain stored,
    storageLiterals_joinWith (free_of_tokens noise), methods_of_tokens noise,
    unknown_of_tokens noise]
  rfl

/-- Two places, one of them named twice, between words that name none. -/
theorem serve_storageLocations_among_others :
    let s := Schema.responseStorageRead
    let store := (Snapshot.empty.apply (.value s (.text "-LDAP-TAPE-DB-ldap-LDAP"))).store
    let t : Tenant := ⟨"example.org", .default, fun _ _ => 0⟩
    (∀ word, Sum.inr word ∈ ([.inr "", .inl .ldap, .inr "TAPE", .inl .db, .inr "ldap",
        .inl .ldap] : List (StorageMethod ⊕ String)) → IsNoise word)
      ∧ t.serve store .empty (.storageLocations s)
        = ⟨(.ok [.ldap, .db, .ldap], .empty), [.value s none],
          [⟨.error, "unknown STORAGE_METHOD found: TAPE",
              [("domain", "example.org"), ("setting", "responses.storageMethod.read")]⟩,
            ⟨.error, "unknown STORAGE_METHOD found: ldap",
              [("domain", "example.org"), ("setting", "responses.storageMethod.read")]⟩]⟩ := by
  intro s store t
  have noise : ∀ word, Sum.inr word ∈ ([.inr "", .inl .ldap, .inr "TAPE", .inl .db,
      .inr "ldap", .inl .ldap] : List (StorageMethod ⊕ String)) → IsNoise word := by
    intro word mem
    have among : word ∈ ["", "TAPE", "ldap"] := by simpa using mem
    have others : ∀ word ∈ ["", "TAPE", "ldap"],
        '-' ∉ word.toList
          ∧ (word = "" ∨ (Literal.ofText? word : Option StorageMethod) = none) := by decide
    exact others word among
  exact ⟨noise, t.serve_storageLocations .empty (by decide) noise (.inl rfl)⟩

end Tenant

end TenantSettings

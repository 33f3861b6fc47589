import TenantSettings.Proofs.Reader.Shape
import TenantSettings.Proofs.Tenant.Storage
import TenantSettings.Proofs.Tenant.Transparency

/-!
# Words that are read in two ways

The places where data and tokens are kept have two sets of words. The literals are looked up by the
text that names several places, and by the tenant that is asked where its tokens are; the words that
are made of names are looked up where a choice, or a list of choices, is read. Both are the same
words, exceptions included, so that the two ways of reading accept the same texts.

* `Worded.ofWord?_eq_ofText?`: two sets of words that are the same are looked up alike.
* `Tenant.serve_tokenStorage`: where tokens are kept is what the choice is read as.
* `Tenant.words_read_alike`: words that are joined by dashes and the same words as a list of
  choices.
-/

namespace TenantSettings

/-! ### Two sets of words -/

/-- Where the words of a type are its literals, both are looked up alike. -/
lemma Worded.ofWord?_eq_ofText? {α : Type} [Worded α]
    (same : ∀ a : α, Worded.word a = Literal.text a) (word : String) :
    (Worded.ofWord? word : Option α) = Literal.ofText? word := by
  unfold Worded.ofWord? Literal.ofText?
  simp only [same]

/-- A place for data has one word, whether it is made of the name or written out. -/
lemma StorageMethod.word_eq_text (method : StorageMethod) :
    Worded.word method = Literal.text method := by
  cases method <;> decide

/-- So has a place for tokens. -/
lemma TokenStorage.word_eq_text (method : TokenStorage) :
    Worded.word method = Literal.text method := by
  cases method <;> decide

/-- A choice is read as the value that its word stands for. -/
lemma Setting.map_fst_decodeChoice {α : Type} {ofWord? : String → Option α} (x : Setting)
    {v : StoredValue} {word : String} (stored : v = .text word ∨ v = .choice word) :
    (x.decodeChoice ofWord? v).map Prod.fst = .ok (ofWord? word) := by
  rcases stored with rfl | rfl <;>
    · simp only [decodeChoice]
      split
      · next found => rw [found]; rfl
      · next missing => rw [missing]; rfl

namespace Tenant

variable {store : Store} {s : Setting}

/-! ### Where tokens are kept -/

/-- The text of the token store, looked up among its literals, is what its choice is read as. -/
lemma result_read_tokenStorage (t : Tenant) (store : Store) :
    (t.plain.read Schema.tokenStorageMethod (.oneOf TokenStorage)).result store = do
      return Literal.ofText? (← (t.plain.text Schema.tokenStorageMethod).result store) := by
  have scope : t.plain.scope Schema.tokenStorageMethod = .ok none := rfl
  have read {v : StoredValue} {word : String} (stored : v = .text word ∨ v = .choice word) :
      (Schema.tokenStorageMethod.decodeChoice Worded.ofWord? v).map Prod.fst
        = .ok (Literal.ofText? word : Option TokenStorage) := by
    rw [Setting.map_fst_decodeChoice _ stored,
      Worded.ofWord?_eq_ofText? TokenStorage.word_eq_text]
  rw [Reader.text, t.plain.result_read scope, t.plain.result_read scope]
  cases store.answer (.value Schema.tokenStorageMethod none) with
  | text word => exact read (.inl rfl)
  | choice word => exact read (.inr rfl)
  | _ => rfl

/-- Over every store, where tokens are kept is what the choice of the token store is read as. -/
lemma serve_tokenStorage (t : Tenant) (store : Store) (m : Memory) :
    (t.serve store m .tokenStorage).value.1
      = (t.serve store m
          (.read none Schema.tokenStorageMethod (.oneOf TokenStorage))).value.1 := by
  show (Call.carryOut (Call.ofRead _) _ _).value.1 = (Call.carryOut (Call.ofRead _) _ _).value.1
  rw [Call.carryOut_ofRead, Call.carryOut_ofRead]
  exact (t.result_tokenStorage store).trans (t.result_read_tokenStorage store).symm

/-! ### Places for data -/

/-- A list of choices is read as the places that its words name among the literals. -/
lemma decodeChoices_storage (x : Setting) (words : List String) :
    x.decodeChoices Worded.ofWord? (.choices words)
      = .ok ((words.filterMap Literal.ofText? : List StorageMethod).eraseDups,
          (words.filter fun word => (Literal.ofText? word : Option StorageMethod).isNone).map
            (x.unknownWord "unknown option value for setting, ignoring")) := by
  simp only [Setting.decodeChoices, Worded.ofWord?_eq_ofText? StorageMethod.word_eq_text]

/-- Words without dashes of which none is empty name the same places joined by dashes and as a list
of choices, but that the list names each place once, at its first occurrence; and the words that
name none are the same, each told of where it is passed over. Over every store, where tokens are
kept is what the choice of the token store is read as, and there is an answer where a word is
stored. -/
theorem words_read_alike (t : Tenant) :
    (∀ (store : Store) (m : Memory) (s x : Setting) (words : List String),
        s.isProfiled = false → (∀ word ∈ words, word ≠ "" ∧ '-' ∉ word.toList) →
        (store.answer (.value s none) = .text (Text.joinWith "-" words)
          ∨ store.answer (.value s none) = .choice (Text.joinWith "-" words)) →
        ∃ (methods : List StorageMethod) (unknown : List String),
          t.serve store m (.storageLocations s)
            = ⟨(.ok methods, m), [.value s none], unknown.map (t.unknownStorage s)⟩
          ∧ x.decodeChoices Worded.ofWord? (.choices words)
            = .ok (methods.eraseDups,
                unknown.map (x.unknownWord "unknown option value for setting, ignoring")))
      ∧ ∀ (store : Store) (m : Memory),
        (t.serve store m .tokenStorage).value.1
            = (t.serve store m
                (.read none Schema.tokenStorageMethod (.oneOf TokenStorage))).value.1
          ∧ ∀ word, (store.answer (.value Schema.tokenStorageMethod none) = .text word
              ∨ store.answer (.value Schema.tokenStorageMethod none) = .choice word) →
            ∃ method, (t.serve store m .tokenStorage).value.1 = .ok method := by
  refine ⟨fun store m s x words plain proper stored => ?_, fun store m => ?_⟩
  · have whole : storageLiterals (Text.joinWith "-" words) = words := by
      rw [storageLiterals_joinWith fun word mem => (proper word mem).2]
      exact List.filter_eq_self.mpr fun word mem => by simpa using (proper word mem).1
    refine ⟨_, _, ?_, decodeChoices_storage x words⟩
    show (Call.ofRead (t.storageLocations s)).carryOut store m = _
    rw [Call.carryOut_ofRead, t.carryOut_storageLocations plain stored, whole]
  · refine ⟨t.serve_tokenStorage store m, fun word stored => ⟨Literal.ofText? word, ?_⟩⟩
    have plain : Schema.tokenStorageMethod.isProfiled = false := rfl
    show (Call.carryOut (Call.ofRead _) _ _).value.1 = _
    rw [Call.carryOut_ofRead]
    refine (t.result_tokenStorage store).trans ?_
    rw [Read.result, t.carryOut_plain_text plain stored]
    rfl

/-- Places of which one is named twice, among words that name none, and a token store whose word is
one of two parts that are written as one. -/
theorem words_read_alike_repeated :
    let s := Schema.responseStorageRead
    let words := ["LOCALDB", "LOCAL_DB", "DB", "LOCALDB"]
    let store := ((Snapshot.empty.apply (.value s (.text "LOCALDB-LOCAL_DB-DB-LOCALDB"))).apply
      (.value Schema.tokenStorageMethod (.choice "STORE_LOCALDB"))).store
    let t : Tenant := ⟨"example.org", .default, fun _ _ => 0⟩
    (s.isProfiled = false ∧ (∀ word ∈ words, word ≠ "" ∧ '-' ∉ word.toList)
        ∧ store.answer (.value s none) = .text (Text.joinWith "-" words))
      ∧ (t.serve store .empty (.storageLocations s)).value.1 = .ok [.localDb, .db, .localDb]
      ∧ (Schema.storageEnabledMethods.decodeChoices Worded.ofWord? (.choices words)).map Prod.fst
        = .ok [StorageMethod.localDb, .db]
      ∧ (t.serve store .empty .tokenStorage).value.1 = .ok (some .localDb)
      ∧ (t.serve store .empty
          (.read none Schema.tokenStorageMethod (.oneOf TokenStorage))).value.1
        = .ok (some .localDb) := by
  intro s words store t
  have proper : ∀ word ∈ words, word ≠ "" ∧ '-' ∉ word.toList := by decide
  have stored : store.answer (.value s none) = .text (Text.joinWith "-" words) := rfl
  obtain ⟨places, tokens⟩ := t.words_read_alike
  obtain ⟨methods, unknown, served, decoded⟩ :=
    places store .empty s Schema.storageEnabledMethods words rfl proper (.inl stored)
  have found : (t.serve store .empty (.storageLocations s)).value.1
      = .ok [.localDb, .db, .localDb] := rfl
  have kept : (t.serve store .empty .tokenStorage).value.1 = .ok (some .localDb) := rfl
  rw [served] at found
  obtain rfl : methods = [.localDb, .db, .localDb] := Except.ok.inj found
  refine ⟨⟨rfl, proper, stored⟩, ?_, ?_, kept, ?_⟩
  · rw [served]
  · rw [decoded]
    rfl
  · rw [← (tokens store .empty).1, kept]

end Tenant

end TenantSettings

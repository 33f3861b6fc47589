import TenantSettings.Proofs.Reader.Shape
import TenantSettings.Proofs.Store.Idle

/-!
# Choices that are stored as texts

A choice may be stored as a text, and is read like one. Whether a choice is the default is told by
comparing what is stored with the default as a whole, so that the default of a choice stands for
the default only if it is stored as a choice: stored as a text it is read as the default and still
counts as a difference from it.

* `Snapshot.exists_word`: what a choice is stored as.
* `Snapshot.isDefault_iff_of_choice`: when a choice is the default.
* `Snapshot.choice_isDefault_iff`: that and what is read, and what follows for the records and the
  digest; `Snapshot.default_choice_as_text`, a default that counts as a difference.
-/

namespace TenantSettings

namespace Snapshot

variable {steps : List Step} {s : Snapshot} {x : Setting}

/-- A choice is stored as a choice or as a text. -/
lemma exists_word (built : build steps = .ok s) (choice : x.shape = .choice)
    (profile : Option String) :
    ∃ word, s.value x profile = .choice word ∨ s.value x profile = .text word := by
  have fits : x.admits (s.value x profile) = true := (Admitted.of_build built).value x profile
  revert fits
  cases s.value x profile with
  | choice word => exact fun _ => ⟨word, .inl rfl⟩
  | text word => exact fun _ => ⟨word, .inr rfl⟩
  | _ => simp [Setting.admits, choice, StoredValue.shape]

/-- A choice is the default if its word is, and was not last written as a text. -/
lemma isDefault_iff_of_choice (built : build steps = .ok s) (choice : x.shape = .choice)
    {profile : Option String} {word : String}
    (stored : s.value x profile = .choice word ∨ s.value x profile = .text word) :
    s.isDefault x profile = true ↔ word = x.default
      ∧ (steps.filterMap (Step.written? x profile)).getLast? ≠ some (.text x.default) := by
  obtain ⟨-, rfl⟩ := build_eq_ok_iff.mp built
  have default : x.defaultValue = .choice x.default := by rw [Setting.defaultValue, choice]
  have last : (steps.foldl apply empty).value x profile
      = (steps.filterMap (Step.written? x profile)).getLast?.getD (.choice x.default) := by
    rw [value, get?_values_foldl, default]
  rw [isDefault_iff, default]
  rcases stored with stored | stored
  · rw [stored] at last ⊢
    constructor
    · rintro ⟨⟩
      refine ⟨rfl, fun text => ?_⟩
      rw [text] at last
      cases last
    · rintro ⟨rfl, -⟩
      rfl
  · -- a text is never the default, and it was written
    rw [stored] at last ⊢
    constructor
    · rintro ⟨⟩
    · rintro ⟨rfl, other⟩
      cases written : (steps.filterMap (Step.written? x profile)).getLast? with
      | none =>
          rw [written] at last
          cases last
      | some v =>
          rw [written] at last other
          exact absurd (congrArg some last.symm) other

/-- A setting that is not the default is listed. -/
lemma mem_modified_of_isDefault_eq_false {profile : Option String}
    (differs : s.isDefault x profile = false) :
    ItemKey.ofSetting x profile ∈ s.modified := by
  rw [modified_eq]
  exact List.mem_append_left _ (List.mem_map.mpr ⟨_, mem_changed_iff.mpr differs, rfl⟩)

/-- What a choice is read as, as a text, is the word that is stored, as a choice or as a text. -/
lemma result_text {r : Reader} {profile : Option String} (scope : r.scope x = .ok profile)
    {word : String} (stored : s.value x profile = .choice word ∨ s.value x profile = .text word) :
    (r.read x .text).result s.store = .ok word := by
  rw [r.result_read scope]
  show ((Reading.text.decode x (s.value x profile)).map Prod.fst) = _
  rcases stored with stored | stored
  · rw [stored]
    rfl
  · rw [stored]
    rfl

/-- Over every snapshot that is built, for every choice and wherever a reader may look it up: over a
snapshot in which nothing is stored the literal of its default is read, as a text. The choice counts
as default if that is read here, too, and the last that was written is not that literal as a text;
so for a default that is written as a text the two disagree. A choice that counts as default has no
effect on the records that differ from their defaults, the settings among them and the digest, which
are the same without the steps that write it there; and one that does not is listed. -/
theorem choice_isDefault_iff (built : build steps = .ok s) (choice : x.shape = .choice)
    (t : Tenant) {id profile : Option String} (scope : (t.reader id).scope x = .ok profile)
    (m : Memory) :
    ∃ word isDefault,
      (t.serve s.store m (.read id x .text)).value.1 = .ok word
      ∧ (t.serve empty.store m (.read id x .text)).value.1 = .ok x.default
      ∧ (t.serve s.store m (.isDefault id x)).value.1 = .ok isDefault
      ∧ (isDefault = true ↔ word = x.default
          ∧ (steps.filterMap (Step.written? x profile)).getLast? ≠ some (.text x.default))
      ∧ (isDefault = true →
          ∃ s', build (steps.filter fun step => (step.written? x profile).isNone) = .ok s'
            ∧ ∀ requests requests' : List Request,
              ∀ r ∈ [Request.modified, .nonDefaultSettings, .digest],
                (t.serve s.store (t.memoryAfter s.store .empty requests') r).value.1
                  = (t.serve s'.store (t.memoryAfter s'.store .empty requests) r).value.1)
      ∧ (isDefault = false → ItemKey.ofSetting x profile ∈ s.store.answer .modified) := by
  obtain ⟨word, stored⟩ := exists_word built choice profile
  have default : empty.value x profile = .choice x.default := by
    rw [value, Setting.defaultValue, choice]
    rfl
  -- neither call looks at the memory, so both are reads of the snapshot
  have asked : (t.serve s.store m (.isDefault id x)).value.1 = .ok (s.isDefault x profile) := by
    show (Call.carryOut (Call.ofRead _) _ _).value.1 = _
    rw [Call.carryOut_ofRead]
    show ((t.reader id).isDefault x).result s.store = _
    rw [Reader.isDefault, Read.result_bind, Read.result_ofExcept, scope]
    rfl
  have read : ∀ s : Snapshot, (t.serve s.store m (.read id x .text)).value.1
      = ((t.reader id).read x .text).result s.store := by
    intro s
    show (Call.carryOut (Call.ofRead _) _ _).value.1 = _
    rw [Call.carryOut_ofRead]
    rfl
  refine ⟨word, s.isDefault x profile, ?_, ?_, asked, isDefault_iff_of_choice built choice stored,
    fun isDefault => ?_, mem_modified_of_isDefault_eq_false⟩
  · rw [read, result_text scope stored]
  · rw [read, result_text scope (.inl default)]
  -- a default stands in none of the lists, so the steps that wrote it can be left out
  · obtain ⟨s', built', same⟩ := exists_build_spared built isDefault
    exact ⟨s', built', same t⟩

/-- How tokens are sent in one profile, changed by a text and changed back by a choice. -/
theorem choice_isDefault_iff_changed_back :
    let x := Schema.recoveryTokenSendMethod
    let steps : List Step :=
      [.profileValue x "east" (.text "SMSONLY"), .profileValue x "east" (.choice "EMAILONLY")]
    let t : Tenant := ⟨"example.org", .default, fun _ _ => 0⟩
    x.shape = .choice ∧ (t.reader (some "east")).scope x = .ok (some "east")
      ∧ ∃ s, build steps = .ok s
        ∧ (t.serve s.store .empty (.read (some "east") x .text)).value.1 = .ok "EMAILONLY"
        ∧ (t.serve empty.store .empty (.read (some "east") x .text)).value.1 = .ok "EMAILONLY"
        ∧ (t.serve s.store .empty (.isDefault (some "east") x)).value.1 = .ok true := by
  intro x steps t
  have scope : (t.reader (some "east")).scope x = .ok (some "east") := rfl
  have built : build steps = .ok (steps.foldl apply empty) := rfl
  obtain ⟨word, isDefault, read, plain, asked, agree, -⟩ :=
    choice_isDefault_iff built (x := x) rfl t scope .empty
  obtain rfl : "EMAILONLY" = word := Except.ok.inj read
  obtain rfl : isDefault = true := agree.mpr ⟨rfl, by decide⟩
  exact ⟨rfl, scope, _, built, read, plain, asked⟩

/-- Where tokens are kept, with the default written as a text: the default is read, but it does not
count as default, it is listed, and it is named among the settings that are not default. -/
theorem default_choice_as_text :
    let x := Schema.tokenStorageMethod
    let steps : List Step := [.value x (.text "STORE_LOCALDB")]
    let t : Tenant := ⟨"example.org", .default, fun _ _ => 0⟩
    x.shape = .choice ∧ (t.reader none).scope x = .ok none
      ∧ ∃ s, build steps = .ok s
        ∧ (t.serve s.store .empty (.read none x .text)).value.1 = .ok "STORE_LOCALDB"
        ∧ (t.serve empty.store .empty (.read none x .text)).value.1 = .ok "STORE_LOCALDB"
        ∧ (t.serve s.store .empty (.isDefault none x)).value.1 = .ok false
        ∧ ItemKey.ofSetting x none ∈ s.store.answer .modified
        ∧ (t.serve s.store .empty .nonDefaultSettings).value.1 = .ok [x] :=
  ⟨rfl, rfl, _, rfl, rfl, rfl, rfl, by decide, rfl⟩

end Snapshot

end TenantSettings

import TenantSettings.Proofs.Json.Record
import TenantSettings.Value.Json

/-!
# Stored values are read back

The stored form of a value, written as compact text, is read back as the value: every record with
all its members, every map in its order.  Each record has one lemma that its form is faithful, and
the content of a stored value is put together from them.

* `StoredValue.content_faithful`: the content of a value is writable and read back under its shape.
* `StoredValue.ofJson?_render`: the text of a value is read back, and written again as it was.
-/

namespace TenantSettings

open Json

/-! ### Words and maps -/

lemma InputKind.literal?_text (kept : Bool) (k : InputKind) :
    literal? kept (.text (Literal.text k)) = some k :=
  Json.literal?_text kept (by cases k <;> decide) (by decide)

lemma PermissionKind.literal?_text (kept : Bool) (k : PermissionKind) :
    literal? kept (.text (Literal.text k)) = some k :=
  Json.literal?_text kept (by cases k <;> decide) (by decide)

lemma Shape.literal?_text (kept : Bool) (s : Shape) :
    literal? kept (.text (Literal.text s)) = some s :=
  Json.literal?_text kept (by cases s <;> decide) (by decide)

lemma OrderedMap.toJson_faithful {α : Type} {write : α → Json} {read : Json → Option α}
    (h : Faithful write read) : Faithful (OrderedMap.toJson write) (map? read) := h.map

/-! ### Records -/

lemma FormField.toJson_faithful (kept : Bool) : Faithful toJson (ofJson? kept) := by
  have labels := OrderedMap.toJson_faithful Faithful.text
  refine ⟨fun f => writable_record ?_, fun f => ?_⟩
  · simp [labels.writable]
  · rw [ofJson?, toJson, fields?_record]
    · simp [present, orElse, labels.readBack, InputKind.literal?_text]
    · rfl
    · decide

lemma Permission.toJson_faithful (kept : Bool) : Faithful toJson (ofJson? kept) := by
  refine ⟨fun p => writable_record ?_, fun p => ?_⟩
  · simp
  · rw [ofJson?, toJson, fields?_record]
    · simp [present, orElse, PermissionKind.literal?_text]
    · rfl
    · decide

/-- The tag of a tagged record is its first member, where names differ. -/
lemma splitTag_record {tag : String} {v : Json} {members : List (String × Json)}
    (distinct : (tag :: members.map Prod.fst).Nodup) :
    splitTag tag (Json.record ((tag, v) :: members)) = some (v, Json.record members) := by
  have names : (((tag, v) :: members).map Prod.fst).Nodup := distinct
  have found : uniqueMember tag (((tag, v) :: members).map fun m => ((some m.1 : JsonText), m.2))
      = some (some v) := uniqueMember_record names List.mem_cons_self
  have others : (((tag, v) :: members).map fun m => ((some m.1 : JsonText), m.2)).filter
      (fun m => m.1 != some tag) = members.map fun m => (some m.1, m.2) := by
    rw [List.map_cons, List.filter_cons_of_neg (by simp), List.filter_eq_self]
    intro n hn
    obtain ⟨m, hm, rfl⟩ := List.mem_map.mp hn
    have there : m.1 ∈ members.map Prod.fst := List.mem_map_of_mem hm
    have other : m.1 ≠ tag := fun same => (List.nodup_cons.mp distinct).1 (same ▸ there)
    simpa using other
  rw [Json.record, splitTag, found, others]
  rfl

namespace ActionStep

/-- Nothing in a written step is refused for its own sake. -/
lemma sound_toJson (s : ActionStep) :
    (s.toJson.storable && s.toJson.withinDepth (maxDepth - 4)) = true := by
  cases s with
  | webService method url body => cases body <;> rfl
  | ldap target value => rfl

/-- A step is read back by its tag, which decides what fields there are. -/
lemma ofJson?_toJson (kept : Bool) (s : ActionStep) : ofJson? kept s.toJson = some s := by
  rw [ofJson?, sound_toJson]
  cases s with
  | webService method url body =>
      have tag : tagIndex? ["webservice", "ldap"] kept (.text "webservice") = some 0 := rfl
      rw [toJson, splitTag_record (by simp)]
      simp only [Option.bind_eq_bind, Option.bind_some, tag]
      rw [fields?_record]
      · simp [present, orElse]
      · rfl
      · decide
  | ldap target value =>
      have tag : tagIndex? ["webservice", "ldap"] kept (.text "ldap") = some 1 := rfl
      rw [toJson, splitTag_record (by simp)]
      simp only [Option.bind_eq_bind, Option.bind_some, tag]
      rw [fields?_record]
      · simp [present]
      · rfl
      · decide

lemma toJson_faithful (kept : Bool) : Faithful toJson (ofJson? kept) := by
  refine ⟨fun s => ?_, ofJson?_toJson kept⟩
  cases s with
  | webService method url body => exact writable_record (by simp)
  | ldap target value => exact writable_record (by simp)

end ActionStep

lemma Action.toJson_faithful (kept : Bool) : Faithful toJson (ofJson? kept) := by
  have steps := (ActionStep.toJson_faithful kept).list
  refine ⟨fun a => writable_record ?_, fun a => ?_⟩
  · simp [steps.writable]
  · rw [ofJson?, toJson, fields?_record]
    · simp [present, orElse, steps.readBack]
    · rfl
    · decide

/-- An optional secret is written as an optional text. -/
lemma Secret.textOrNull_faithful :
    Faithful (fun s : Option Secret => textOrNull (s.map text)) (optional? ofJson?) := by
  refine ⟨fun s => writable_textOrNull _, fun s => ?_⟩
  cases s <;> rfl

lemma WebService.toJson_faithful : Faithful toJson ofJson? := by
  refine ⟨fun w => writable_record ?_, fun w => ?_⟩
  · simp [Faithful.texts.writable]
  · rw [ofJson?, toJson, fields?_record]
    · simp [present, orElse, Secret.textOrNull_faithful.readBack, Faithful.texts.readBack]
    · rfl
    · decide

lemma NamedSecret.toJson_faithful : Faithful toJson ofJson? := by
  refine ⟨fun s => writable_record ?_, fun s => ?_⟩
  · simp [Faithful.texts.writable]
  · rw [ofJson?, toJson, fields?_record]
    · simp [present, orElse, Secret.ofJson?, Faithful.texts.readBack]
    · rfl
    · decide

lemma FileInfo.toJson_faithful : Faithful toJson ofJson? := by
  refine ⟨fun i => writable_record ?_, fun i => ?_⟩
  · simp
  · rw [ofJson?, toJson, fields?_record]
    · simp [present]
    · rfl
    · decide

lemma StoredFile.toJson_faithful : Faithful toJson ofJson? := by
  refine ⟨fun f => writable_record ?_, fun f => ?_⟩
  · simp [FileInfo.toJson_faithful.writable]
  · rw [ofJson?, toJson, fields?_record]
    · simp [present, FileInfo.toJson_faithful.readBack]
    · rfl
    · decide

lemma StoredKey.toJson_faithful : Faithful toJson ofJson? := by
  refine ⟨fun k => writable_record ?_, fun k => ?_⟩
  · simp [Faithful.texts.writable]
  · rw [ofJson?, toJson, fields?_record]
    · simp [present, orElse, Faithful.texts.readBack]
    · rfl
    · decide

lemma EmailItem.toJson_faithful : Faithful toJson ofJson? := by
  refine ⟨fun e => writable_record ?_, fun e => ?_⟩
  · simp
  · rw [ofJson?, toJson, fields?_record]
    · simp [present, orElse]
    · rfl
    · decide

/-! ### Stored values -/

namespace StoredValue

/-- A faithful form is one of the content that a value is made of. -/
lemma made {α : Type} {write : α → Json} {read : Json → Option α} (h : Faithful write read)
    (make : α → StoredValue) (a : α) :
    Writable (write a) ∧ (read (write a)).map make = some (make a) :=
  ⟨h.writable a, by rw [h.readBack, Option.map_some]⟩

/-- The content of a value is writable, and it is read back under the shape of the value. -/
lemma content_faithful (kept : Bool) (v : StoredValue) :
    Writable v.content ∧ ofContent? kept v.content v.shape = some v := by
  cases v with
  | text s => exact made .text text s
  | flag b => exact made ⟨writable_bool, bool?_bool⟩ flag b
  | number n => exact made ⟨fun n => writable_int n.toInt, int64?_int⟩ number n
  | texts l => exact made .texts texts l
  | localizedText m => exact made (OrderedMap.toJson_faithful .text) localizedText m
  | localizedTexts m => exact made (OrderedMap.toJson_faithful .texts) localizedTexts m
  | choice word => exact made .text choice word
  | choices words => exact made .texts choices words
  | form fields => exact made (FormField.toJson_faithful kept).list form fields
  | permissions l => exact made (Permission.toJson_faithful kept).list permissions l
  | actions l => exact made (Action.toJson_faithful kept).list actions l
  | webServices l => exact made WebService.toJson_faithful.list webServices l
  | password p => exact made Secret.textOrNull_faithful password p
  | namedSecrets m =>
      exact made (OrderedMap.toJson_faithful NamedSecret.toJson_faithful) namedSecrets m
  | files l => exact made StoredFile.toJson_faithful.list files l
  | certificates pems => exact made .texts certificates pems
  | privateKey k =>
      cases k with
      | none => exact ⟨writable_null, rfl⟩
      | some k =>
          -- a key is an object and so never null, which alone stands for no key
          have object : optional? StoredKey.ofJson? k.toJson
              = (StoredKey.ofJson? k.toJson).map some := rfl
          refine ⟨StoredKey.toJson_faithful.writable k, ?_⟩
          show (optional? StoredKey.ofJson? k.toJson).map privateKey = _
          rw [object, StoredKey.toJson_faithful.readBack]
          rfl
  | localizedEmail m =>
      exact made (OrderedMap.toJson_faithful EmailItem.toJson_faithful) localizedEmail m

/-- The stored form of a value is writable, and it is read back as the value. -/
lemma toJson_faithful : Faithful toJson ofJson? := by
  refine ⟨fun v => writable_record ?_, fun v => ?_⟩
  · simp [(content_faithful false v).1]
  · simp [toJson, Json.record, ofJson?, uniqueMember, Shape.literal?_text,
      (content_faithful false v).2]

/-- The compact text of a value is read back as the value, with every map in its order, and that is
written as the same text again. -/
theorem ofJson?_render (v : StoredValue) :
    (Json.parse v.render).bind ofJson? = some v
      ∧ ((Json.parse v.render).bind ofJson?).map render = some v.render := by
  have read : (Json.parse v.render).bind ofJson? = some v := by
    rw [render, parse_render (toJson_faithful.writable v), Option.bind_some,
      toJson_faithful.readBack]
  exact ⟨read, by rw [read, Option.map_some]⟩

end StoredValue

end TenantSettings

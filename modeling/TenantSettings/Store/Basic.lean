import TenantSettings.Options
import TenantSettings.Setting.Schema
import TenantSettings.Value.Basic

/-!
# Stores

A store answers questions about stored configuration.  Nothing is written through it, and a question
has one answer for as long as the store is in use.

* `Store.answer_answering`: the store that answers one question differently.
* `ItemKey.setting?_ofSetting`: the setting that a record names.
-/

namespace TenantSettings

/-! ### Records that differ from their defaults -/

/-- What a stored record is about. -/
inductive RecordKind where
  | setting | localeBundle | property
deriving DecidableEq, Repr

instance : Literal RecordKind where
  all := [.setting, .localeBundle, .property]
  text
    | .setting => "Setting"
    | .localeBundle => "LocaleBundle"
    | .property => "Property"

/-- The key of a stored record. -/
structure ItemKey where
  kind : RecordKind
  id : String
  profile : Option String
deriving DecidableEq, Repr

namespace ItemKey

/-- The record of a setting, of one profile or of none. -/
def ofSetting (s : Setting) (profile : Option String) : ItemKey := ⟨.setting, s.key, profile⟩

/-- The name of a key of a bundle: the bundle, a dash and the key. -/
def bundleId (b : Bundle) (key : String) : String := Literal.text b ++ "-" ++ key

/-- The record of the texts under a key of a bundle. -/
def ofBundle (b : Bundle) (key : String) : ItemKey := ⟨.localeBundle, bundleId b key, none⟩

/-- The record of a property of the configuration document. -/
def ofProperty (name : String) : ItemKey := ⟨.property, name, none⟩

/-- The setting of the schema that a record is about. -/
def setting? (k : ItemKey) : Option Setting :=
  match k.kind with
  | .setting => Schema.byKey? k.id
  | _ => none

/-- A description of a record key. -/
def describe (k : ItemKey) : String :=
  Literal.text k.kind ++ ":" ++ k.id ++
    match k.profile with
    | some id => "[" ++ id ++ "]"
    | none => ""

/-- The record of a setting names that setting where the schema has it. -/
theorem setting?_ofSetting (s : Setting) (profile : Option String) :
    (ofSetting s profile).setting? = Schema.byKey? s.key := rfl

end ItemKey

/-! ### Questions and answers -/

/-- A question that a store answers. -/
inductive Question where
  | value (s : Setting) (profile : Option String)
  | isDefault (s : Setting) (profile : Option String)
  | bundle (b : Bundle) (key : String)
  | modified
  | templates
  | profileIds (c : Category)
deriving DecidableEq, Repr

/-- What a question is answered by: the value of a setting, or its default where nothing is stored;
whether it is the default; the texts under a key of a bundle by written locale tag, where there are
any; the records that differ from their defaults; the templates that the configuration was made
from; the profile ids of a category in configured order. -/
abbrev Question.Answer : Question → Type
  | .value _ _ => StoredValue
  | .isDefault _ _ => Bool
  | .bundle _ _ => Option (OrderedMap String String)
  | .modified => List ItemKey
  | .templates => List String
  | .profileIds _ => List String

/-- A store of configuration. -/
structure Store where
  answer : (q : Question) → q.Answer

namespace Store

/-- The store that gives one question another answer. -/
def answering (s : Store) (q : Question) (a : q.Answer) : Store :=
  ⟨fun asked => if h : q = asked then h ▸ a else s.answer asked⟩

/-- The store that answers one question differently answers it so. -/
theorem answer_answering (s : Store) (q : Question) (a : q.Answer) :
    (s.answering q a).answer q = a := by
  simp [answering]

/-- The store that answers one question differently answers the others as before. -/
theorem answer_answering_of_ne (s : Store) {q asked : Question} (a : q.Answer) (h : q ≠ asked) :
    (s.answering q a).answer asked = s.answer asked := by
  simp [answering, h]

end Store

end TenantSettings

import TenantSettings.Proofs.Properties.Environment

/-!
# Properties from several sources

A property is taken from its variable where there is one, else from the file, else it has its
default. The sources are merged by name before anything is converted, and each property is converted
from what stands under its own name, so that a variable changes its own property and no other; nor
do the checks of the whole reach from one property to another.

* `Property`, `Properties.value`: the properties one by one.
* `Properties.load_eq_ok_iff`: what is loaded, property by property.
* `Properties.load_override`: the order of the sources for each property.
-/

namespace TenantSettings

open Toml OrderedMap

/-! ### The properties one by one -/

/-- A property. -/
inductive Property where
  | minKeyLength | ephemeralKeyLength | devDebugMode | defaultLocale
deriving DecidableEq, Repr

namespace Property

/-- The properties. -/
def all : List Property := [.minKeyLength, .ephemeralKeyLength, .devDebugMode, .defaultLocale]

lemma mem_all (x : Property) : x ∈ all := by cases x <;> decide

/-- The name that a property is set under. -/
def name : Property → String
  | .minKeyLength => "security_min_key_length"
  | .ephemeralKeyLength => "security_ephemeral_key_length"
  | .devDebugMode => "dev_debug_mode"
  | .defaultLocale => "default_locale"

lemma nodup_names : (all.map name).Nodup := by decide

lemma name_injective : Function.Injective name := fun x y same =>
  List.inj_on_of_nodup_map nodup_names x.mem_all y.mem_all same

lemma name_mem_names (x : Property) : x.name ∈ Properties.names := by cases x <;> decide

/-- The type of a property. -/
abbrev Value : Property → Type
  | .minKeyLength => Nat
  | .ephemeralKeyLength => Nat
  | .devDebugMode => Bool
  | .defaultLocale => String

/-- The conversion of what is given for a property. -/
def convert : (x : Property) → Toml.Value → Option x.Value
  | .minKeyLength => Properties.toNat?
  | .ephemeralKeyLength => Properties.toNat?
  | .devDebugMode => Properties.toBool?
  | .defaultLocale => Properties.toText?

end Property

namespace Properties

/-- The value of a property. -/
def value (p : Properties) : (x : Property) → x.Value
  | .minKeyLength => p.minKeyLength
  | .ephemeralKeyLength => p.ephemeralKeyLength
  | .devDebugMode => p.devDebugMode
  | .defaultLocale => p.defaultLocale

/-- The defaults but for one property. -/
def only : (x : Property) → x.Value → Properties
  | .minKeyLength, length => { default with minKeyLength := length }
  | .ephemeralKeyLength, length => { default with ephemeralKeyLength := length }
  | .devDebugMode, mode => { default with devDebugMode := mode }
  | .defaultLocale, locale => { default with defaultLocale := locale }

@[simp] lemma value_only (x : Property) (v : x.Value) : (only x v).value x = v := by cases x <;> rfl

lemma value_only_of_ne {x y : Property} (other : y ≠ x) (v : x.Value) :
    (only x v).value y = default.value y := by
  cases x <;> cases y <;> first | rfl | exact absurd rfl other

/-- Each check is about one property, and the defaults pass all of them, so that a property which
passes among others passes alone. -/
lemma validate_only {p : Properties} (valid : p.validate = .ok ()) (x : Property) :
    (only x (p.value x)).validate = .ok () := by
  obtain ⟨positive, dark⟩ := p.validate_eq_ok_iff.mp valid
  have positiveDefault : default.minKeyLength ≠ 0 := by decide
  have darkDefault : Unicode.isBlank default.defaultLocale = false := by decide
  rw [validate_eq_ok_iff]
  cases x with
  | minKeyLength => exact ⟨positive, darkDefault⟩
  | ephemeralKeyLength => exact ⟨positiveDefault, darkDefault⟩
  | devDebugMode => exact ⟨positiveDefault, darkDefault⟩
  | defaultLocale => exact ⟨positiveDefault, dark⟩

/-- What some members give for a property. -/
def given (members : List (String × Value)) (x : Property) : Option x.Value :=
  field x.convert (default.value x) x.name members

lemma ofMembers_eq_some_iff {members : List (String × Value)} {p : Properties} :
    ofMembers toNat? toBool? toText? members = some p
      ↔ ∀ x, given members x = some (p.value x) := by
  constructor
  · intro read x
    simp only [ofMembers, Option.bind_eq_bind, Option.bind_eq_some_iff, Option.pure_def,
      Option.some.injEq] at read
    obtain ⟨least, hLeast, ephemeral, hEphemeral, mode, hMode, locale, hLocale, rfl⟩ := read
    cases x with
    | minKeyLength => exact hLeast
    | ephemeralKeyLength => exact hEphemeral
    | devDebugMode => exact hMode
    | defaultLocale => exact hLocale
  · intro each
    -- each property is read under its own name, so the conditions for all four give the whole
    have least : field toNat? default.minKeyLength "security_min_key_length" members
        = some p.minKeyLength := each .minKeyLength
    have ephemeral : field toNat? default.ephemeralKeyLength "security_ephemeral_key_length"
        members = some p.ephemeralKeyLength := each .ephemeralKeyLength
    have mode : field toBool? default.devDebugMode "dev_debug_mode" members
        = some p.devDebugMode := each .devDebugMode
    have locale : field toText? default.defaultLocale "default_locale" members
        = some p.defaultLocale := each .defaultLocale
    rw [ofMembers, least, ephemeral, mode, locale]
    rfl

/-! ### What is loaded -/

/-- The members of an optional file. -/
def fileMembers? : Option String → Option (List (String × Value))
  | none => some []
  | some content => Toml.parse .passed (Toml.withoutMark content)

/-- The members of a file with what an environment assigns laid over them. -/
def merged (members : List (String × Value)) (vars : List (String × String)) :
    List (String × Value) :=
  ((members ++ assignments vars).foldl assignTo .empty).entries

lemma validated_eq_ok_iff {p q : Properties} :
    q.validated = .ok p ↔ p.validate = .ok () ∧ q = p := by
  have checked : q.validated = q.validate.map fun _ => q := by
    rw [validated]
    cases q.validate <;> rfl
  rw [checked]
  constructor
  · intro done
    cases valid : q.validate with
    | error e =>
        rw [valid] at done
        cases done
    | ok _ =>
        rw [valid] at done
        obtain rfl : q = p := Except.ok.inj done
        exact ⟨valid, rfl⟩
  · rintro ⟨valid, rfl⟩
    rw [valid]
    rfl

/-- What comes of properties that may have been read. -/
lemma checked_eq_ok_iff {read : Option Properties} {e : ConfigError} {p : Properties} :
    (match read with
      | some q => q.validated
      | none => .error e) = .ok p ↔ p.validate = .ok () ∧ read = some p := by
  cases read with
  | none => simp
  | some q =>
      rw [Option.some.injEq]
      exact validated_eq_ok_iff

/-- What is loaded are valid properties, each of them given by what the sources are merged into. -/
lemma load_eq_ok_iff {file : Option String} {vars : List (String × String)} {p : Properties} :
    load file vars = .ok p ↔ p.validate = .ok ()
      ∧ ∃ members, fileMembers? file = some members
        ∧ membersWithin Int64.minValue.toInt Int64.maxValue.toInt members = true
        ∧ ∀ x, given (merged members vars) x = some (p.value x) := by
  unfold load
  refine checked_eq_ok_iff.trans ?_
  -- with and without a file, the same is read from other members
  cases file <;>
    simp only [fileMembers?, merged, Option.bind_eq_bind, Option.bind_eq_some_iff,
      Option.ite_none_right_eq_some, ofMembers_eq_some_iff]

/-! ### The variables of some properties -/

/-- The texts that some properties are set to, by name. -/
def settings (texts : Property → Option String) : List (String × String) :=
  Property.all.filterMap fun x => (texts x).map fun text => (x.name, text)

/-- An environment overrides some properties if, of all its variables, those of these properties set
properties, to the given texts, and no others do, in whatever order. -/
def Overrides (texts : Property → Option String) (vars : List (String × String)) : Prop :=
  (vars.filter fun v => (assignedName? v.1).isSome).Perm
    ((settings texts).map fun e => (variableName e.1, e.2))

instance (texts : Property → Option String) (vars : List (String × String)) :
    Decidable (Overrides texts vars) :=
  inferInstanceAs (Decidable (List.Perm _ _))

/-- One property is set to a text. -/
def single (x : Property) (text : String) : Property → Option String :=
  Function.update (fun _ => none) x (some text)

variable {texts : Property → Option String}

lemma mem_settings_iff {x : Property} {text : String} :
    (x.name, text) ∈ settings texts ↔ texts x = some text := by
  rw [settings, List.mem_filterMap]
  constructor
  · rintro ⟨y, -, entry⟩
    obtain ⟨found, there, same⟩ := Option.map_eq_some_iff.mp entry
    obtain ⟨names, rfl⟩ := Prod.mk.inj same
    rw [← Property.name_injective names]
    exact there
  · intro there
    exact ⟨x, x.mem_all, by rw [there]; rfl⟩

lemma nodup_settings (texts : Property → Option String) :
    ((settings texts).map Prod.fst).Nodup := by
  have sub : ((settings texts).map Prod.fst).Sublist (Property.all.map Property.name) := by
    rw [settings]
    induction Property.all with
    | nil => exact .slnil
    | cons x rest ih =>
        cases there : texts x with
        | none => simpa [there] using ih.cons x.name
        | some text => simpa [there] using ih
  exact Property.nodup_names.sublist sub

lemma lookup_settings (texts : Property → Option String) (x : Property) :
    (settings texts).lookup x.name = texts x :=
  Option.ext fun _ => (lookup_eq_some_iff (nodup_settings texts)).trans mem_settings_iff

variable {vars : List (String × String)}

lemma Overrides.assigns (h : Overrides texts vars) : Assigns (settings texts) vars where
  known e mem := by
    obtain ⟨x, -, entry⟩ := List.mem_filterMap.mp mem
    obtain ⟨text, -, rfl⟩ := Option.map_eq_some_iff.mp entry
    exact x.name_mem_names
  distinct := nodup_settings texts
  perm := h

/-- The members of a file, laid into one map. -/
def laid (members : List (String × Value)) : OrderedMap String Value :=
  members.foldl assignTo .empty

namespace Overrides

variable (h : Overrides texts vars) (members : List (String × Value)) {x : Property}

include h

/-- Under the name of a property stands what its variable is taken for, and where it has none, what
the file has there. -/
lemma lookup_merged (x : Property) :
    (merged members vars).lookup x.name
      = ((texts x).map variableValue).or ((laid members).get? x.name) := by
  rw [← lookup_settings texts x, ← h.assigns.get?_foldl_assignments, merged, List.foldl_append]
  rfl

/-- A property is given by its variable, whatever the file has for it, -/
lemma given_merged_of_some {text : String} (there : texts x = some text) :
    given (merged members vars) x = x.convert (variableValue text) := by
  rw [given, field, h.lookup_merged, there]
  rfl

/-- and by the file where it has no variable. -/
lemma given_merged_of_none (absent : texts x = none) :
    given (merged members vars) x = given (laid members).entries x := by
  rw [given, field, h.lookup_merged, absent]
  rfl

end Overrides

/-- An assignment changes no property but its target, -/
lemma get?_assignTo_of_ne {e : String × Value} {name : String} (other : (target e.1).1 ≠ name)
    (m : OrderedMap String Value) : (assignTo m e).get? name = m.get? name := by
  rw [assignTo]
  split <;> next aims => rw [get?_insert, if_neg (by rw [aims] at other; exact other.symm)]

/-- and assignments that all aim elsewhere leave a property as it is. -/
lemma get?_foldl_assignTo_of_untouched {l : List (String × Value)} {name : String}
    (untouched : ∀ e ∈ l, (target e.1).1 ≠ name) (m : OrderedMap String Value) :
    (l.foldl assignTo m).get? name = m.get? name := by
  induction l generalizing m with
  | nil => rfl
  | cons e rest ih =>
      rw [List.foldl_cons, ih fun d mem => untouched d (List.mem_cons_of_mem e mem),
        get?_assignTo_of_ne (untouched e List.mem_cons_self)]

/-- A property that nothing in a file assigns to has its default. -/
lemma given_laid_of_untouched {members : List (String × Value)} {x : Property}
    (untouched : ∀ e ∈ members, (target e.1).1 ≠ x.name) :
    given (laid members).entries x = some (default.value x) := by
  have absent : (laid members).entries.lookup x.name = none :=
    get?_foldl_assignTo_of_untouched untouched .empty
  rw [given, field, absent]

/-- What one variable gives its property, it gives it alone. -/
lemma load_alone {alone : List (String × String)} {p : Properties} {x : Property} {text : String}
    (set : Overrides (single x text) alone) (valid : p.validate = .ok ())
    (converted : x.convert (variableValue text) = some (p.value x)) :
    load none alone = .ok (only x (p.value x)) := by
  refine load_eq_ok_iff.mpr ⟨validate_only valid x, [], rfl, rfl, fun y => ?_⟩
  by_cases same : y = x
  · subst same
    rw [value_only, set.given_merged_of_some [] (Function.update_self ..), converted]
  · rw [value_only_of_ne same, set.given_merged_of_none [] (Function.update_of_ne same ..)]
    exact given_laid_of_untouched fun e mem => absurd mem List.not_mem_nil

/-- A property has the value that the text of its variable converts to where it has one, which is
also the value that it gets when that variable is set alone and there is no file. Else it has the
value that the file gives it, as without any variables, and where nothing in the file assigns to it,
that is its default. -/
theorem load_override {file : Option String} {texts : Property → Option String}
    {bare vars : List (String × String)} {p q : Properties}
    (nothing : Overrides (fun _ => none) bare) (set : Overrides texts vars)
    (before : load file bare = .ok p) (after : load file vars = .ok q) (x : Property) :
    (∀ text, texts x = some text → x.convert (variableValue text) = some (q.value x))
      ∧ (texts x = none → ∃ members, fileMembers? file = some members
          ∧ given (laid members).entries x = some (q.value x))
      ∧ (∀ text, texts x = some text → ∀ alone, Overrides (single x text) alone →
          ∃ r, load none alone = .ok r ∧ q.value x = r.value x)
      ∧ (texts x = none → q.value x = p.value x)
      ∧ (texts x = none → (∀ members, fileMembers? file = some members →
          ∀ e ∈ members, (target e.1).1 ≠ x.name) → q.value x = default.value x) := by
  obtain ⟨-, members, parsed, -, eachBefore⟩ := load_eq_ok_iff.mp before
  obtain ⟨valid, members', parsed', -, eachAfter⟩ := load_eq_ok_iff.mp after
  obtain rfl : members = members' := Option.some.inj (parsed.symm.trans parsed')
  have ofVariable : ∀ text, texts x = some text →
      x.convert (variableValue text) = some (q.value x) := fun text there => by
    rw [← set.given_merged_of_some members there]
    exact eachAfter x
  have ofFile : texts x = none → given (laid members).entries x = some (q.value x) :=
    fun absent => by
      rw [← set.given_merged_of_none members absent]
      exact eachAfter x
  -- without variables every property is the file's, so what the file gives stands on both sides
  have ofFileBefore : given (laid members).entries x = some (p.value x) := by
    rw [← nothing.given_merged_of_none members rfl]
    exact eachBefore x
  refine ⟨ofVariable, fun absent => ⟨members, parsed, ofFile absent⟩,
    fun text there alone setAlone => ?_, fun absent => ?_, fun absent untouched => ?_⟩
  · exact ⟨_, load_alone setAlone valid (ofVariable text there), (value_only x _).symm⟩
  · exact Option.some.inj ((ofFile absent).symm.trans ofFileBefore)
  · exact Option.some.inj ((ofFile absent).symm.trans
      (given_laid_of_untouched (untouched members parsed)))

/-- A file with two properties, and variables of one of them and of another one: the length is that
of its variable and not the file's, the mode is what the word of its variable stands for, and the
locale is the file's. -/
theorem load_override_length_and_mode :
    let file := some "security_min_key_length = 40\ndefault_locale = \"de-AT\"\n"
    let texts : Property → Option String
      | .minKeyLength => some "64"
      | .devDebugMode => some "yes"
      | _ => none
    let mode := ("DOMAIN_CONFIG__DEV_DEBUG_MODE", "yes")
    let vars := [mode, ("LANG", "C"), ("DOMAIN_CONFIG__SECURITY_MIN_KEY_LENGTH", "64")]
    let p : Properties := ⟨40, 1024, false, "de-AT"⟩
    let q : Properties := ⟨64, 1024, true, "de-AT"⟩
    Overrides (fun _ => none) [("LANG", "C")] ∧ Overrides texts vars
      ∧ Overrides (single .devDebugMode "yes") [mode]
      ∧ load file [("LANG", "C")] = .ok p ∧ load file vars = .ok q
      ∧ toNat? (variableValue "64") = some q.minKeyLength
      ∧ (∃ r, load none [mode] = .ok r ∧ q.devDebugMode = r.devDebugMode)
      ∧ (∃ members, fileMembers? file = some members
        ∧ given (laid members).entries .defaultLocale = some q.defaultLocale)
      ∧ q.defaultLocale = p.defaultLocale := by
  intro file texts mode vars p q
  have nothing : Overrides (fun _ => none) [("LANG", "C")] := by decide +kernel
  have set : Overrides texts vars := by decide +kernel
  have alone : Overrides (single .devDebugMode "yes") [mode] := by decide +kernel
  have before : load file [("LANG", "C")] = .ok p := by decide +kernel
  have after : load file vars = .ok q := by decide +kernel
  have each := load_override nothing set before after
  obtain ⟨length, -, -, -, -⟩ := each .minKeyLength
  obtain ⟨-, -, likeAlone, -, -⟩ := each .devDebugMode
  obtain ⟨-, ofFile, -, unchanged, -⟩ := each .defaultLocale
  exact ⟨nothing, set, alone, before, after, length "64" rfl, likeAlone "yes" rfl [mode] alone,
    ofFile rfl, unchanged rfl⟩

end Properties

end TenantSettings

import TenantSettings.Proofs.OrderedMap
import TenantSettings.Proofs.Properties.Guess

/-!
# Properties by way of the environment

Properties that differ from their defaults can be put into variables of the environment, and loaded
from there. What is loaded is given here property by property: truth values come back as they were,
lengths and texts as their guesses allow.

* `Properties.environment`, `Properties.SetBy`: the variables that set what differs from its
  default.
* `Properties.Assigns.get?_foldl_assignments`: what the variables of some properties are laid over.
* `Properties.field_of_setBy`: what is read of one property.
* `Properties.load_of_setBy`: what is loaded.
* `Properties.load_roundTrip`: which properties come back.
-/

namespace TenantSettings.Properties

open Toml OrderedMap

lemma validate_eq_ok_iff (p : Properties) :
    p.validate = .ok () ↔ p.minKeyLength ≠ 0 ∧ Unicode.isBlank p.defaultLocale = false := by
  rw [validate]
  split_ifs with zero blank
  · simp [zero]
  · simp [blank]
  · simp [zero, blank]

/-! ### The variables -/

/-- The variable of the environment that sets a property. -/
def variableName (name : String) : String := "DOMAIN_CONFIG__" ++ Unicode.toUpper name

/-- The variables that set the properties that differ from their defaults. -/
def environment (p : Properties) : List (String × String) :=
  p.nonDefault.map fun e => (variableName e.1, e.2)

/-- An environment sets some properties if, of all its variables, these set properties and no
others, in whatever order. -/
def SetBy (p : Properties) (vars : List (String × String)) : Prop :=
  (vars.filter fun v => (assignedName? v.1).isSome).Perm p.environment

/-- The names of the properties. -/
def names : List String := default.entries.map Prod.fst

lemma map_fst_entries (p : Properties) : p.entries.map Prod.fst = names := rfl

lemma nodup_names : names.Nodup := by decide

/-- A name is assigned to by its variable, as a whole. -/
lemma assigned_of_mem_names :
    ∀ name ∈ names, assignedName? (variableName name) = some name
      ∧ target name = (name, false) := by
  decide +kernel

lemma mem_names {p : Properties} {e : String × String} (mem : e ∈ p.nonDefault) : e.1 ∈ names := by
  rw [← p.map_fst_entries]
  exact List.mem_map.mpr ⟨e, (List.mem_filter.mp mem).1, rfl⟩

lemma nodup_nonDefault (p : Properties) : (p.nonDefault.map Prod.fst).Nodup :=
  nodup_names.sublist (p.map_fst_entries ▸ List.filter_sublist.map _)

/-- The variables of some properties set them. -/
lemma setBy_environment (p : Properties) : p.SetBy p.environment := by
  have all : ∀ v ∈ p.environment, (assignedName? v.1).isSome = true := by
    intro v mem
    obtain ⟨e, entry, rfl⟩ := List.mem_map.mp mem
    rw [(assigned_of_mem_names e.1 (mem_names entry)).1]
    rfl
  rw [SetBy, List.filter_eq_self.mpr all]

/-- The default of the default locale comes back. -/
lemma printed_standard : printed "en" = "en" :=
  (printed_eq_self_iff "en").mpr (printsBack_of_text (by decide +kernel) rfl rfl)

/-! ### What the variables assign -/

/-- What a variable assigns. -/
def assigned? (v : String × String) : Option (String × Value) :=
  (assignedName? v.1).map fun name => (name, variableValue v.2)

/-- What is assigned to names one after another, as a whole and to none of them twice, is found
before what was there. -/
lemma get?_foldl_assignTo {l : List (String × Value)} (whole : ∀ e ∈ l, target e.1 = (e.1, false))
    (distinct : (l.map Prod.fst).Nodup) (m : OrderedMap String Value) (name : String) :
    (l.foldl assignTo m).get? name = (l.lookup name).or (m.get? name) := by
  -- each step inserts under a name that none of the later ones touches
  induction l generalizing m with
  | nil => rfl
  | cons e rest ih =>
      rw [List.map_cons, List.nodup_cons] at distinct
      have here : assignTo m e = m.insert e.1 e.2 := by
        rw [assignTo, whole e List.mem_cons_self]
      rw [List.foldl_cons, here,
        ih (fun d mem => whole d (List.mem_cons_of_mem e mem)) distinct.2, get?_insert,
        lookup_entry_cons]
      split
      · next same =>
          have later : rest.lookup name = none := List.lookup_eq_none_iff.mpr fun d mem => by
            rw [same, bne_iff_ne]
            exact fun again => distinct.1 (again ▸ List.mem_map_of_mem mem)
          rw [later]
          rfl
      · rfl

/-- An environment assigns some texts to properties, given by name, if of all its variables those of
these properties set properties, to these texts, and no others do, in whatever order. -/
structure Assigns (texts vars : List (String × String)) : Prop where
  known : ∀ e ∈ texts, e.1 ∈ names
  distinct : (texts.map Prod.fst).Nodup
  perm : (vars.filter fun v => (assignedName? v.1).isSome).Perm
    (texts.map fun e => (variableName e.1, e.2))

namespace Assigns

variable {texts vars : List (String × String)} (h : Assigns texts vars)

include h

/-- What is assigned are guesses at the texts, in some order. -/
lemma perm_assigned :
    (vars.filterMap assigned?).Perm (texts.map fun e => (e.1, variableValue e.2)) := by
  have others : vars.filterMap assigned?
      = (vars.filter fun v => (assignedName? v.1).isSome).filterMap assigned? := by
    rw [List.filterMap_filter]
    refine List.filterMap_congr fun v _ => ?_
    cases named : assignedName? v.1 <;> simp [assigned?, named]
  have ours : (texts.map fun e => (variableName e.1, e.2)).filterMap assigned?
      = texts.map fun e => (e.1, variableValue e.2) := by
    rw [List.filterMap_map, ← List.filterMap_eq_map]
    refine List.filterMap_congr fun e mem => ?_
    have name := (assigned_of_mem_names e.1 (h.known e mem)).1
    simp only [Function.comp_apply, assigned?, name, Option.map_some]
  rw [others, ← ours]
  exact h.perm.filterMap assigned?

lemma nodup_assigned : ((vars.filterMap assigned?).map Prod.fst).Nodup := by
  have sameNames : (texts.map fun e => (e.1, variableValue e.2)).map Prod.fst
      = texts.map Prod.fst := by
    rw [List.map_map]
    rfl
  rw [(h.perm_assigned.map Prod.fst).nodup_iff, sameNames]
  exact h.distinct

/-- No two variables assign to one name, so each of them counts. -/
lemma assignments_eq : assignments vars = vars.filterMap assigned? := by
  have same : (fun v : String × String => do
      return (← assignedName? v.1, variableValue v.2)) = assigned? := by
    funext v
    cases named : assignedName? v.1 <;> simp [assigned?, named]
  rw [assignments, same, entries_ofList h.nodup_assigned]

lemma lookup_assignments (name : String) :
    (assignments vars).lookup name = (texts.lookup name).map variableValue := by
  rw [h.assignments_eq, lookup_perm h.nodup_assigned h.perm_assigned]
  exact lookup_map_entry variableValue _ _

/-- What the variables assign is laid over whatever was there before, each name for itself. -/
lemma get?_foldl_assignments (m : OrderedMap String Value) (name : String) :
    ((assignments vars).foldl assignTo m).get? name
      = ((texts.lookup name).map variableValue).or (m.get? name) := by
  have whole : ∀ e ∈ assignments vars, target e.1 = (e.1, false) := by
    intro e mem
    rw [h.assignments_eq, h.perm_assigned.mem_iff] at mem
    obtain ⟨v, entry, rfl⟩ := List.mem_map.mp mem
    exact (assigned_of_mem_names v.1 (h.known v entry)).2
  have distinct : ((assignments vars).map Prod.fst).Nodup := by
    rw [h.assignments_eq]
    exact h.nodup_assigned
  rw [← h.lookup_assignments]
  exact get?_foldl_assignTo whole distinct m name

end Assigns

/-- The members that an environment gives, where there is no file. -/
def members (vars : List (String × String)) : List (String × Value) :=
  ((assignments vars).foldl assignTo .empty).entries

/-- Where these members give properties, they are loaded once they are valid. -/
lemma load_of_members {vars : List (String × String)} {p : Properties}
    (given : ofMembers toNat? toBool? toText? (members vars) = some p) :
    load none vars = p.validated := by
  unfold load
  split
  · next q read =>
      obtain rfl : p = q := Option.some.inj (given.symm.trans read)
      rfl
  · next read =>
      have refused : ofMembers toNat? toBool? toText? (members vars) = none := read
      rw [given] at refused
      cases refused

section load

variable {p : Properties} {vars : List (String × String)} (set : p.SetBy vars)

include set

/-- What an environment is set to are the texts of the properties that differ from their defaults. -/
lemma assigns_of_setBy : Assigns p.nonDefault vars := ⟨fun _ => mem_names, p.nodup_nonDefault, set⟩

/-! ### What is loaded -/

/-- What is read of one property: its default if it has that value, else what its guess is converted
to. -/
lemma field_of_setBy {α : Type} {read : Value → Option α} {value standard : α}
    {name text standardText : String} (entry : p.entries.lookup name = some text)
    (standardEntry : default.entries.lookup name = some standardText)
    (same : text = standardText → value = standard)
    (converted : text ≠ standardText → read (variableValue text) = some value) :
    field read standard name (members vars) = some value := by
  -- a property of its default is not among those that are written, and has no variable
  have kept : p.nonDefault.lookup name = if text = standardText then none else some text := by
    rw [nonDefault, lookup_filter (p.map_fst_entries ▸ nodup_names), entry]
    simp only [standardEntry]
    by_cases unchanged : text = standardText
    · simp [unchanged]
    · simp [unchanged, Ne.symm unchanged]
  have found : (members vars).lookup name
      = if text = standardText then none else some (variableValue text) := by
    calc (members vars).lookup name
        = ((p.nonDefault.lookup name).map variableValue).or none :=
          (assigns_of_setBy set).get?_foldl_assignments .empty name
      _ = if text = standardText then none else some (variableValue text) := by
          rw [kept]
          split <;> rfl
  rw [field, found]
  by_cases unchanged : text = standardText
  · rw [if_pos unchanged, same unchanged]
  · rw [if_neg unchanged]
    exact converted unchanged

/-- A length is read as what comes back of it. -/
lemma field_length {name : String} {length standard : Nat} (word : length < wordBound)
    (entry : p.entries.lookup name = some (toString length))
    (standardEntry : default.entries.lookup name = some (toString standard))
    (short : standard < 2 ^ 63) :
    field toNat? standard name (members vars) = some (carried length) := by
  refine field_of_setBy set entry standardEntry (fun same => ?_) fun _ => toNat?_variableValue word
  have read : toNat? (variableValue (toString length)) = some (carried standard) := by
    rw [same]
    exact toNat?_variableValue (short.trans (by decide))
  rw [toNat?_variableValue word] at read
  exact (Option.some.inj read).trans (if_pos short)

lemma field_flag :
    field toBool? default.devDebugMode "dev_debug_mode" (members vars) = some p.devDebugMode := by
  have entry : p.entries.lookup "dev_debug_mode" = some (flagText p.devDebugMode) := rfl
  refine field_of_setBy set entry rfl (fun same => ?_) fun _ => ?_
  · cases flag : p.devDebugMode with
    | false => rfl
    | true =>
        rw [flag] at same
        exact absurd same (by decide)
  · cases p.devDebugMode <;> decide +kernel

lemma field_locale :
    field toText? default.defaultLocale "default_locale" (members vars)
      = some (printed p.defaultLocale) := by
  refine field_of_setBy set rfl rfl (fun same => ?_) fun _ => toText?_variableValue _
  rw [same]
  exact printed_standard

/-- What comes back of some properties by way of the environment. -/
lemma ofMembers_of_setBy (least : p.minKeyLength < wordBound)
    (ephemeral : p.ephemeralKeyLength < wordBound) :
    ofMembers toNat? toBool? toText? (members vars)
      = some ⟨carried p.minKeyLength, carried p.ephemeralKeyLength, p.devDebugMode,
          printed p.defaultLocale⟩ := by
  have minKeyLength : field toNat? default.minKeyLength "security_min_key_length" (members vars)
      = some (carried p.minKeyLength) :=
    field_length set least rfl rfl (by decide)
  have ephemeralKeyLength : field toNat? default.ephemeralKeyLength "security_ephemeral_key_length"
      (members vars) = some (carried p.ephemeralKeyLength) :=
    field_length set ephemeral rfl rfl (by decide)
  rw [ofMembers, minKeyLength, ephemeralKeyLength, field_flag set, field_locale set]
  rfl

/-- What is loaded is what comes back, and it may be opened with where the properties could be. -/
lemma load_of_setBy (valid : p.validate = .ok ()) (least : p.minKeyLength < wordBound)
    (ephemeral : p.ephemeralKeyLength < wordBound) :
    load none vars
      = .ok ⟨carried p.minKeyLength, carried p.ephemeralKeyLength, p.devDebugMode,
          printed p.defaultLocale⟩ := by
  obtain ⟨positive, dark⟩ := p.validate_eq_ok_iff.mp valid
  have back : validate ⟨carried p.minKeyLength, carried p.ephemeralKeyLength, p.devDebugMode,
      printed p.defaultLocale⟩ = .ok () :=
    (validate_eq_ok_iff _).mpr ⟨carried_ne_zero least positive, isBlank_printed dark⟩
  rw [load_of_members (ofMembers_of_setBy set least ephemeral), validated, back]
  rfl

end load

/-- Properties that a configuration may be opened with are loaded from an environment that sets
them, with the same development mode. A length comes back as it was exactly if it is a signed
integer of 64 bits, a double or the greatest word, and a default locale exactly if it is printed
back by what it is taken for. So the properties come back exactly if all three do. -/
theorem load_roundTrip {p : Properties} {vars : List (String × String)}
    (valid : p.validate = .ok ()) (least : p.minKeyLength < wordBound)
    (ephemeral : p.ephemeralKeyLength < wordBound) (set : p.SetBy vars) :
    (load none vars = .ok p
        ↔ Holds p.minKeyLength ∧ Holds p.ephemeralKeyLength ∧ PrintsBack p.defaultLocale)
      ∧ ∃ q, load none vars = .ok q ∧ q.devDebugMode = p.devDebugMode
        ∧ (q.minKeyLength = p.minKeyLength ↔ Holds p.minKeyLength)
        ∧ (q.ephemeralKeyLength = p.ephemeralKeyLength ↔ Holds p.ephemeralKeyLength)
        ∧ (q.defaultLocale = p.defaultLocale ↔ PrintsBack p.defaultLocale) := by
  have loaded := load_of_setBy set valid least ephemeral
  have leastBack := carried_eq_self_iff least
  have ephemeralBack := carried_eq_self_iff ephemeral
  have localeBack := printed_eq_self_iff p.defaultLocale
  refine ⟨?_, _, loaded, rfl, leastBack, ephemeralBack, localeBack⟩
  -- what is loaded is known, so the question is whether it differs from what was written
  rw [loaded, ← leastBack, ← ephemeralBack, ← localeBack]
  constructor
  · intro same
    obtain ⟨minKeyLength, ephemeralKeyLength, -, defaultLocale⟩ :=
      Properties.mk.inj (Except.ok.inj same)
    exact ⟨minKeyLength, ephemeralKeyLength, defaultLocale⟩
  · rintro ⟨minKeyLength, ephemeralKeyLength, defaultLocale⟩
    rw [minKeyLength, ephemeralKeyLength, defaultLocale]

/-- A length beyond the signed integers that is a double, next to a variable that sets nothing. -/
theorem load_roundTrip_long_length :
    let p : Properties := ⟨48, 2 ^ 63 + 2 ^ 11, true, "de-AT"⟩
    let vars := ("LANG", "C") :: p.environment
    p.validate = .ok () ∧ p.SetBy vars ∧ load none vars = .ok p := by
  intro p vars
  have valid : p.validate = .ok () := by decide
  have unrelated : (assignedName? "LANG").isSome = false := by decide +kernel
  have set : p.SetBy vars := by
    rw [SetBy, List.filter_cons_of_neg (by simp [unrelated])]
    exact p.setBy_environment
  have locale : PrintsBack "de-AT" :=
    printsBack_of_text (by decide +kernel) (by decide +kernel) (by decide +kernel)
  have back := (load_roundTrip valid (by decide) (by decide) set).1
  exact ⟨valid, set, back.mpr ⟨by decide, by decide, locale⟩⟩

/-- A default locale that reads as a number, and a length beyond the signed integers that is no
double, come back as others. -/
theorem load_reprints :
    let p : Properties := ⟨32, 1024, false, "1.50"⟩
    let q : Properties := ⟨2 ^ 63 + 1, 1024, false, "en"⟩
    p.validate = .ok () ∧ load none p.environment = .ok { p with defaultLocale := "1.5" }
      ∧ q.validate = .ok () ∧ load none q.environment = .ok { q with minKeyLength := 2 ^ 63 } := by
  intro p q
  have validP : p.validate = .ok () := by decide
  have validQ : q.validate = .ok () := by decide
  have number : printed "1.50" = "1.5" := by decide +kernel
  have text : printed "en" = "en" := printed_standard
  have cut : carried (2 ^ 63 + 1) = 2 ^ 63 := by decide +kernel
  refine ⟨validP, ?_, validQ, ?_⟩
  · rw [load_of_setBy p.setBy_environment validP (by decide) (by decide), number]
    rfl
  · rw [load_of_setBy q.setBy_environment validQ (by decide) (by decide), text, cut]
    rfl

end TenantSettings.Properties

import TenantSettings.Store.Basic
import TenantSettings.Value.Decode
import TenantSettings.Value.Default

/-!
# Snapshots

A store put together in memory, step by step.  A step that does not fit its setting is a fault; all
faults are reported together, and then there is no store.

* `Snapshot.build`: the snapshot that some steps make, or their faults in the order of the steps.
* `Snapshot.store`: the store that a snapshot is.
-/

namespace TenantSettings

/-- A frozen configuration in memory. Profile ids are kept with their category in the order of
their first mention. -/
structure Snapshot where
  values : OrderedMap (Setting × Option String) StoredValue
  profiles : List (Category × String)
  bundles : OrderedMap (Bundle × String) (OrderedMap String String)
  properties : OrderedMap String String
  templates : List String

namespace Snapshot

/-- The snapshot in which nothing is stored. -/
def empty : Snapshot := ⟨.empty, [], .empty, .empty, []⟩

/-- The value of a setting, or its default where nothing is stored. -/
def value (s : Snapshot) (x : Setting) (profile : Option String) : StoredValue :=
  (s.values.get? (x, profile)).getD x.defaultValue

/-- Whether a setting has its default value. -/
def isDefault (s : Snapshot) (x : Setting) (profile : Option String) : Bool :=
  match s.values.get? (x, profile) with
  | some v => v == x.defaultValue
  | none => true

/-- The texts under a key of a bundle; an empty map counts as none. -/
def bundle (s : Snapshot) (b : Bundle) (key : String) : Option (OrderedMap String String) :=
  (s.bundles.get? (b, key)).filter (!·.isEmpty)

/-- The records that differ from their defaults: settings, then bundle keys, then properties, each
in the order in which they were first stored. -/
def modified (s : Snapshot) : List ItemKey :=
  (s.values.entries.filter fun e => e.2 != e.1.1.defaultValue).map
      (fun e => ItemKey.ofSetting e.1.1 e.1.2)
    ++ s.bundles.keys.map (fun k => ItemKey.ofBundle k.1 k.2)
    ++ s.properties.keys.map ItemKey.ofProperty

/-- The profile ids of a category. -/
def profileIds (s : Snapshot) (c : Category) : List String :=
  (s.profiles.filter fun p => p.1 == c).map Prod.snd

/-- The store that a snapshot is. -/
def store (s : Snapshot) : Store where
  answer
    | .value x profile => s.value x profile
    | .isDefault x profile => s.isDefault x profile
    | .bundle b key => s.bundle b key
    | .modified => s.modified
    | .templates => s.templates
    | .profileIds c => s.profileIds c

/-- A step of putting a snapshot together. -/
inductive Step where
  | value (s : Setting) (v : StoredValue)
  | profileValue (s : Setting) (profile : String) (v : StoredValue)
  | profile (c : Category) (id : String)
  | bundle (b : Bundle) (key : String) (texts : List (String × String))
  | property (name text : String)
  | templates (names : List String)

/-- A snapshot with a profile id made known. -/
def addProfile (s : Snapshot) (c : Category) (id : String) : Snapshot :=
  if (c, id) ∈ s.profiles then s else { s with profiles := s.profiles ++ [(c, id)] }

/-- A snapshot with a value stored. -/
def put (s : Snapshot) (x : Setting) (profile : Option String) (v : StoredValue) : Snapshot :=
  { s with values := s.values.insert (x, profile) v }

/-- What is wrong with a step, if anything: its setting has the wrong kind of category, or its value
has a shape that the setting does not admit. -/
def Step.fault? : Step → Option StoreFault
  | .value x v =>
    if x.isProfiled then some (.profiled x.key x.category)
    else if x.admits v then none
    else some (.shape x.key x.shape v.shape)
  | .profileValue x _ v =>
    if !x.isProfiled then some (.unprofiled x.key x.category)
    else if x.admits v then none
    else some (.shape x.key x.shape v.shape)
  | _ => none

/-- A snapshot after a step without fault. A value for a profile makes the profile known. -/
def apply (s : Snapshot) : Step → Snapshot
  | .value x v => s.put x none v
  | .profileValue x id v => (s.addProfile x.category id).put x (some id) v
  | .profile c id => s.addProfile c id
  | .bundle b key texts => { s with bundles := s.bundles.insert (b, key) (.ofList texts) }
  | .property name text => { s with properties := s.properties.insert name text }
  | .templates names => { s with templates := names }

/-- The snapshot that some steps make, or all their faults. -/
def build (steps : List Step) : Except ConfigError Snapshot :=
  match steps.filterMap Step.fault? with
  | [] => .ok (steps.foldl apply empty)
  | faults => .error (.ofCause (.storeFaults faults))

end Snapshot

end TenantSettings

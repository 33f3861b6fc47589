import TenantSettings.Inquiry
import TenantSettings.Reader.Reading
import TenantSettings.Text.Quoted

/-!
# Readers

Typed access to the settings of a domain, of one profile or of none.  A setting of a profiled
category can only be read where a profile is named; any other setting is read without a profile.

* `Reader.read`: a setting under a reading.
* `Reader.carryOut_read`: what comes of it.
-/

namespace TenantSettings

/-- Access to the settings of a domain, within a profile or outside of all. -/
structure Reader where
  domain : String
  profile : Option String
deriving DecidableEq, Repr

namespace Reader

/-- The profile that a setting is looked up under. -/
def scope (r : Reader) (s : Setting) : Except ConfigError (Option String) :=
  if !s.isProfiled then .ok none
  else
    match r.profile with
    | some id => .ok (some id)
    | none => .error (.profileNeeded s.key)

/-- The value stored for a setting. -/
def raw (r : Reader) (s : Setting) : Read StoredValue := do
  let scope ← Read.ofExcept (r.scope s)
  Read.ask (.value s scope)

/-- What comes of looking up a stored value: one question, unless the setting cannot be looked up
here. -/
theorem carryOut_raw (r : Reader) (s : Setting) (store : Store) :
    (r.raw s).carryOut store =
      match r.scope s with
      | .error e => ⟨.error e, [], []⟩
      | .ok scope => ⟨.ok (store.answer (.value s scope)), [.value s scope], []⟩ := by
  rw [raw, Read.carryOut_bind, Read.carryOut_ofExcept]
  cases r.scope s <;> rfl

/-- Whether a setting has its default value. -/
def isDefault (r : Reader) (s : Setting) : Read Bool := do
  let scope ← Read.ofExcept (r.scope s)
  Read.ask (.isDefault s scope)

/-- The value stored for a setting, under a reading. -/
def read (r : Reader) (s : Setting) (reading : Reading) : Read reading.Answer := do
  let value ← r.raw s
  let (answer, warnings) ← Read.ofExcept (reading.decode s value)
  Read.tellAll warnings
  return answer

/-- What comes of a read: one question, unless the setting cannot be looked up here; then the answer
that the stored value decodes to, and the warnings about it. -/
theorem carryOut_read (r : Reader) (s : Setting) (reading : Reading) (store : Store) :
    (r.read s reading).carryOut store =
      match r.scope s with
      | .error e => ⟨.error e, [], []⟩
      | .ok scope =>
        match reading.decode s (store.answer (.value s scope)) with
        | .error e => ⟨.error e, [.value s scope], []⟩
        | .ok (answer, warnings) => ⟨.ok answer, [.value s scope], warnings⟩ := by
  rw [read, Read.carryOut_bind, carryOut_raw]
  cases r.scope s with
  | error e => rfl
  | ok scope =>
    simp only [Outcome.followedBy, Read.carryOut_bind, Read.carryOut_ofExcept]
    rcases reading.decode s (store.answer (.value s scope)) with e | ⟨answer, warnings⟩
    · rfl
    · simp [Read.carryOut_tellAll, Read.carryOut_pure]

/-- A setting as a text. -/
def text (r : Reader) (s : Setting) : Read String := r.read s .text

/-- A setting as a truth value. -/
def flag (r : Reader) (s : Setting) : Read Bool := r.read s .flag

/-- A setting as a number. -/
def number (r : Reader) (s : Setting) : Read Int := do return (← r.read s .number).toInt

/-- A setting as a list of texts. -/
def texts (r : Reader) (s : Setting) : Read (List String) := r.read s .texts

/-- A setting as the text that suits a locale best. -/
def localizedText (r : Reader) (s : Setting) (locale : Locale) : Read String :=
  r.read s (.localizedText locale)

/-- A setting as the texts that suit a locale best. -/
def localizedTexts (r : Reader) (s : Setting) (locale : Locale) : Read (List String) :=
  r.read s (.localizedTexts locale)

/-- A setting as a form. -/
def form (r : Reader) (s : Setting) : Read (List FormField) := r.read s .form

/-- A setting as permissions. -/
def permissions (r : Reader) (s : Setting) : Read (List Permission) := r.read s .permissions

/-- A setting as actions. -/
def actions (r : Reader) (s : Setting) : Read (List Action) := r.read s .actions

/-- A setting as an optional secret. -/
def password (r : Reader) (s : Setting) : Read (Option Secret) := r.read s .password

/-- A setting as certificates. -/
def certificates (r : Reader) (s : Setting) : Read (List Certificate) := r.read s .certificates

/-- The id that a profile read here goes by, empty outside of all profiles. -/
def profileId (r : Reader) : String := r.profile.getD ""

/-- The failure of a profile that cannot be built. -/
def fault {α : Type} (r : Reader) (f : ProfileFault) : Read α :=
  Read.fail (.ofProfile r.profileId f)

/-- A text that must not be blank. -/
def requiredText (r : Reader) (s : Setting) : Read String := do
  let value ← r.text s
  if Unicode.isBlank value then r.fault (.missing s.key)
  else return value

/-- A number that must not be negative. -/
def count (r : Reader) (s : Setting) : Read Nat := do
  let value ← r.number s
  if value < 0 then r.fault (.negative s.key value)
  else return value.toNat

/-- A description of a reader. -/
def describe (r : Reader) : String :=
  "SettingReader \x7b domain: DomainId(" ++ Text.quoted r.domain ++ "), profile_id: "
    ++ (match r.profile with
      | some id => "Some(" ++ Text.quoted id ++ ")"
      | none => "None")
    ++ " \x7d"

end Reader

end TenantSettings

import Mathlib.Tactic.Lemma
import TenantSettings.Profile.Challenge
import TenantSettings.Profile.Definition
import TenantSettings.Profile.PasswordPolicy

/-!
# What a reader asks

Which questions a read may put to its store, whatever the store answers.  The bound composes as
reads do, so every profile that is put together from reads of settings stays within the scope of its
reader.

* `Read.AsksOnly`: a bound on the questions of a read; `AsksOnly.carryOut_congr` is what it is good
  for.
* `Reader.Sees`: the questions within the scope of a reader, those about a setting under the profile
  that the reader looks it up under.
* `Reader.asksOnly_read`, `Reader.asksOnly_isDefault`: a reader asks nothing else.
* `Definition.asksOnly_build`, `PasswordPolicy.asksOnly_read`, `ChallengeProfile.asksOnly_read`: nor
  does any profile that is read through it.
-/

namespace TenantSettings

/-! ### Bounds on the questions of a read -/

namespace Read

variable {α β : Type} {P : Question → Prop}

/-- Over every store, the read only asks questions of one kind. -/
def AsksOnly (P : Question → Prop) (x : Read α) : Prop :=
  ∀ (store : Store), ∀ q ∈ (x.carryOut store).asked, P q

namespace AsksOnly

/-- Stores that answer these questions alike come to the same value, by the same questions and
events. -/
lemma carryOut_congr {x : Read α} (hx : AsksOnly P x) {s t : Store}
    (agree : ∀ q, P q → s.answer q = t.answer q) : x.carryOut s = x.carryOut t :=
  Inquiry.run_congr x.run fun q asked => agree q (hx s q asked)

lemma ofExcept (r : Except ConfigError α) : AsksOnly P (Read.ofExcept r) := by
  intro store q asked
  rw [carryOut_ofExcept] at asked
  cases asked

lemma pure (a : α) : AsksOnly P (Pure.pure a : Read α) := ofExcept (.ok a)

lemma fail (e : ConfigError) : AsksOnly P (Read.fail e : Read α) := ofExcept (.error e)

lemma ask {q : Question} (hq : P q) : AsksOnly P (Read.ask q) := by
  intro store asked mem
  rw [carryOut_ask, List.mem_singleton] at mem
  rw [mem]
  exact hq

/-- One read after another. -/
lemma bind {x : Read α} {f : α → Read β} (hx : AsksOnly P x) (hf : ∀ a, AsksOnly P (f a)) :
    AsksOnly P (x >>= f) := by
  intro store q asked
  have first := hx store q
  rw [carryOut_bind, Outcome.followedBy] at asked
  split at asked
  · next a _ =>
      rcases List.mem_append.mp asked with early | late
      · exact first early
      · exact hf a store q late
  · exact first asked

lemma map {x : Read α} (f : α → β) (hx : AsksOnly P x) : AsksOnly P (f <$> x) := by
  rw [map_eq_pure_bind]
  exact hx.bind fun _ => .pure _

lemma ite {c : Prop} [Decidable c] {x y : Read α} (hx : AsksOnly P x) (hy : AsksOnly P y) :
    AsksOnly P (if c then x else y) := by
  split
  · exact hx
  · exact hy

/-- A weaker bound. -/
lemma mono {Q : Question → Prop} {x : Read α} (hx : AsksOnly P x) (h : ∀ q, P q → Q q) :
    AsksOnly Q x :=
  fun store q asked => h q (hx store q asked)

/-- Reads along a list. -/
lemma mapM {f : α → Read β} (hf : ∀ a, AsksOnly P (f a)) (l : List α) : AsksOnly P (l.mapM f) := by
  induction l with
  | nil => exact .pure []
  | cons a rest ih =>
      rw [List.mapM_cons]
      exact (hf a).bind fun _ => ih.bind fun _ => .pure _

/-- A loop along a list. -/
lemma forIn {f : α → β → Read (ForInStep β)} (hf : ∀ a b, AsksOnly P (f a b)) (l : List α)
    (b : β) : AsksOnly P (forIn l b f) := by
  induction l generalizing b with
  | nil => exact .pure b
  | cons a rest ih =>
      rw [List.forIn_cons]
      refine (hf a b).bind fun round => ?_
      cases round with
      | done b => exact .pure b
      | yield b => exact ih b

/-- Logging asks nothing. -/
lemma tell (e : Event) : AsksOnly P (Read.tell e) := by
  intro store q asked
  rw [carryOut_tell] at asked
  cases asked

lemma tellAll (events : List Event) : AsksOnly P (Read.tellAll events) := by
  intro store q asked
  rw [carryOut_tellAll] at asked
  cases asked

/-- What a failure is called asks nothing. -/
lemma mapError (f : ConfigError → ConfigError) {x : Read α} (hx : AsksOnly P x) :
    AsksOnly P (x.mapError f) := by
  intro store q asked
  have same : ((x.mapError f).carryOut store).asked = (x.carryOut store).asked := by
    rw [carryOut, Read.mapError, ExceptT.run_mk, Inquiry.run_bind]
    simp [Inquiry.run_pure, carryOut]
  exact hx store q (same ▸ asked)

/-- Nor does logging a failure. -/
lemma tellError (event : ConfigError → Event) {x : Read α} (hx : AsksOnly P x) :
    AsksOnly P (x.tellError event) := by
  intro store q asked
  have same : ((x.tellError event).carryOut store).asked = (x.carryOut store).asked := by
    rw [carryOut, Read.tellError, ExceptT.run_mk, Inquiry.run_bind, carryOut]
    rcases x.run.run store with ⟨value, asked, events⟩
    cases value with
    | ok a => exact List.append_nil _
    | error e => exact List.append_nil _
  exact hx store q (same ▸ asked)

end AsksOnly

end Read

/-! ### The scope of a reader -/

namespace Reader

open Read

variable (r : Reader) (s : Setting)

/-- The questions within the scope of a reader: the value of a setting, and whether it is the
default, under the profile that the reader looks the setting up under. -/
inductive Sees (r : Reader) : Question → Prop
  | value {s : Setting} {profile : Option String} (scope : r.scope s = .ok profile) :
      Sees r (.value s profile)
  | isDefault {s : Setting} {profile : Option String} (scope : r.scope s = .ok profile) :
      Sees r (.isDefault s profile)

lemma asksOnly_raw : AsksOnly r.Sees (r.raw s) := by
  unfold raw
  cases scope : r.scope s with
  | error e => exact .ofExcept (.error e)
  | ok profile => exact .ask (.value scope)

lemma asksOnly_isDefault : AsksOnly r.Sees (r.isDefault s) := by
  unfold isDefault
  cases scope : r.scope s with
  | error e => exact .ofExcept (.error e)
  | ok profile => exact .ask (.isDefault scope)

/-- Under every reading, a reader only asks within its scope. -/
lemma asksOnly_read (reading : Reading) : AsksOnly r.Sees (r.read s reading) :=
  (r.asksOnly_raw s).bind fun _ => (AsksOnly.ofExcept _).bind fun _ =>
    (AsksOnly.tellAll _).bind fun _ => .pure _

lemma asksOnly_number : AsksOnly r.Sees (r.number s) :=
  (r.asksOnly_read s .number).bind fun _ => .pure _

lemma asksOnly_requiredText : AsksOnly r.Sees (r.requiredText s) :=
  (r.asksOnly_read s .text).bind fun _ => .ite (.fail _) (.pure _)

lemma asksOnly_count : AsksOnly r.Sees (r.count s) :=
  (r.asksOnly_number s).bind fun _ => .ite (.fail _) (.pure _)

end Reader

/-! ### Profiles -/

section profiles

open Read Reader

variable (r : Reader)

lemma Directory.asksOnly_read : AsksOnly r.Sees (Directory.read r) :=
  .bind (r.asksOnly_read _ .flag) fun _ => .bind (r.asksOnly_read _ .texts) fun _ =>
    .ite (.fail _) <|
      .bind (r.asksOnly_read _ (.localizedText .root)) fun _ =>
      .bind (r.asksOnly_read _ .text) fun _ => .bind (r.asksOnly_read _ .password) fun _ =>
      .bind (r.asksOnly_read _ .certificates) fun _ => .bind (r.asksOnly_read _ .texts) fun _ =>
      .bind (r.asksOnly_read _ .text) fun _ => .bind (r.asksOnly_read _ .text) fun _ => .pure _

lemma PasswordChange.asksOnly_read : AsksOnly r.Sees (PasswordChange.read r) :=
  .bind (r.asksOnly_read _ .permissions) fun _ => .bind (r.asksOnly_read _ .flag) fun _ =>
    .bind (r.asksOnly_read _ .actions) fun _ => .pure _

lemma PasswordRecovery.asksOnly_read : AsksOnly r.Sees (PasswordRecovery.read r) :=
  .bind (r.asksOnly_read _ (.someOf RecoveryMethod)) fun _ => .ite (.fail _) <|
    .bind (r.asksOnly_read _ (.oneOf SendMethod)) fun _ => .bind (.ofExcept _) fun _ =>
    .bind (r.asksOnly_read _ .permissions) fun _ => .bind (r.asksOnly_read _ .form) fun _ =>
    .pure _

lemma Activation.asksOnly_read : AsksOnly r.Sees (Activation.read r) :=
  .bind (r.asksOnly_read _ .permissions) fun _ => .bind (r.asksOnly_read _ .form) fun _ =>
    .bind (r.asksOnly_read _ .actions) fun _ => .pure _

lemma Registration.asksOnly_read : AsksOnly r.Sees (Registration.read r) :=
  .bind (r.asksOnly_read _ .form) fun _ => .bind (r.asksOnly_requiredText _) fun _ =>
    .bind (r.asksOnly_read _ .text) fun _ => .bind (r.asksOnly_read _ .actions) fun _ => .pure _

lemma Helpdesk.asksOnly_read : AsksOnly r.Sees (Helpdesk.read r) :=
  .bind (r.asksOnly_read _ .permissions) fun _ => .bind (r.asksOnly_read _ .form) fun _ =>
    .bind (r.asksOnly_read _ .actions) fun _ => .pure _

lemma OtpSetup.asksOnly_read : AsksOnly r.Sees (OtpSetup.read r) :=
  .bind (r.asksOnly_read _ .permissions) fun _ => .bind (r.asksOnly_read _ .flag) fun _ => .pure _

lemma AttributeUpdate.asksOnly_read : AsksOnly r.Sees (AttributeUpdate.read r) :=
  .bind (r.asksOnly_read _ .permissions) fun _ => .bind (r.asksOnly_read _ .form) fun _ =>
    .bind (r.asksOnly_read _ .actions) fun _ => .pure _

lemma PeopleSearch.asksOnly_read (isPublic : Bool) :
    AsksOnly r.Sees (PeopleSearch.read isPublic r) := by
  refine .bind (r.asksOnly_number _) fun _ => .ite ?_ ?_
  -- a public search does not ask whom it applies to
  · exact .bind (.pure _) fun _ => .bind (r.asksOnly_read _ .form) fun _ =>
      .bind (r.asksOnly_read _ .form) fun _ => .pure _
  · exact .bind (r.asksOnly_read _ .permissions) fun _ => .bind (r.asksOnly_read _ .form) fun _ =>
      .bind (r.asksOnly_read _ .form) fun _ => .pure _

lemma EmailServer.asksOnly_read : AsksOnly r.Sees (EmailServer.read r) :=
  .bind (r.asksOnly_number _) fun _ => .ite (.fail _) <|
    .bind (r.asksOnly_requiredText _) fun _ => .bind (r.asksOnly_read _ .text) fun _ =>
    .bind (r.asksOnly_read _ .password) fun _ => .bind (r.asksOnly_read _ .text) fun _ => .pure _

lemma PasswordPolicy.asksOnly_read (locale : Locale) :
    AsksOnly r.Sees (PasswordPolicy.read r locale) :=
  .bind (r.asksOnly_count _) fun _ => .bind (r.asksOnly_count _) fun _ => .ite (.fail _) <|
    .bind (r.asksOnly_read _ .permissions) fun _ =>
    .bind (r.asksOnly_count _) fun _ => .bind (r.asksOnly_count _) fun _ =>
    .bind (r.asksOnly_count _) fun _ => .bind (r.asksOnly_count _) fun _ =>
    .bind (r.asksOnly_read _ .texts) fun _ =>
    .bind (r.asksOnly_read _ (.localizedText locale)) fun _ => .pure _

lemma ChallengeProfile.asksOnly_read (locale : Locale) :
    AsksOnly r.Sees (ChallengeProfile.read r locale) :=
  .bind (r.asksOnly_read _ (.localizedTexts locale)) fun _ => .bind (r.asksOnly_number _) fun _ =>
    .ite (.fail _) <| .bind (r.asksOnly_read _ (.localizedTexts locale)) fun _ => .pure _

/-- The record of every kind of profile is put together from reads within the scope. -/
lemma Definition.asksOnly_readRecord (isPublic : Bool) (k : ProfileKind) :
    AsksOnly r.Sees (Definition.readRecord isPublic r k) := by
  cases k with
  | directory => exact Directory.asksOnly_read r
  | passwordChange => exact PasswordChange.asksOnly_read r
  | passwordRecovery => exact PasswordRecovery.asksOnly_read r
  | activation => exact Activation.asksOnly_read r
  | registration => exact Registration.asksOnly_read r
  | helpdesk => exact Helpdesk.asksOnly_read r
  | otpSetup => exact OtpSetup.asksOnly_read r
  | attributeUpdate => exact AttributeUpdate.asksOnly_read r
  | peopleSearch => exact PeopleSearch.asksOnly_read r isPublic
  | emailServer => exact EmailServer.asksOnly_read r

/-- The profile of a reader, under every definition, asks nothing out of the scope of the reader. -/
lemma Definition.asksOnly_build (d : Definition) : AsksOnly r.Sees (d.build r) := by
  unfold Definition.build
  split
  · exact .fail _
  · exact .mapError _ (.map _ (Definition.asksOnly_readRecord r _ _))

end profiles

end TenantSettings

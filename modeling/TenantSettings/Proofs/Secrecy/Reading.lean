import TenantSettings.Profile.Challenge
import TenantSettings.Profile.Definition
import TenantSettings.Profile.PasswordPolicy
import TenantSettings.Proofs.Reader.Shape
import TenantSettings.Proofs.Secrecy.Redaction

/-!
# Reads that keep secrets

Two stores that give the same answers up to redaction cannot be told apart by what a read asks, logs
and fails with, and what is read from them is the same up to redaction.  That composes as reads do,
so it holds of every profile; where a read goes on with a secret, what follows is compared for any
two secrets of one length.

* `Inquiry.Alike`, `Read.Alike`: computations that show the same over two such stores, with one rule
  for each way to put computations together.
* `Reading.decode_redact`: decoding commutes with redaction.
* `Reader.alike_read`: typed reads keep secrets.
* `Definition.alike_build`, `PasswordPolicy.shown_read`, `ChallengeProfile.shown_read`: so does
  every profile that is read through a reader.
-/

namespace TenantSettings

/-! ### Inquiries that show the same -/

/-- Two results with the same image are the same failure or two values with the same image. -/
lemma Except.cases_of_map_eq {ε α γ : Type} {μ : α → γ} {r r' : Except ε α}
    (h : r.map μ = r'.map μ) :
    (∃ e, r = .error e ∧ r' = .error e) ∨ ∃ a a', r = .ok a ∧ r' = .ok a' ∧ μ a = μ a' := by
  cases r with
  | error e =>
      cases r' with
      | error e' => exact .inl ⟨e, rfl, congrArg _ (Except.error.inj h).symm⟩
      | ok a' => cases h
  | ok a =>
      cases r' with
      | error e' => cases h
      | ok a' => exact .inr ⟨a, a', rfl, rfl, Except.ok.inj h⟩

/-- Two optional values with the same image are both absent or two values with the same image. -/
lemma Option.cases_of_map_eq {α γ : Type} {μ : α → γ} {o o' : Option α} (h : o.map μ = o'.map μ) :
    (o = none ∧ o' = none) ∨ ∃ a a', o = some a ∧ o' = some a' ∧ μ a = μ a' := by
  cases o with
  | none =>
      cases o' with
      | none => exact .inl ⟨rfl, rfl⟩
      | some a' => cases h
  | some a =>
      cases o' with
      | none => cases h
      | some a' => exact .inr ⟨a, a', rfl, rfl, Option.some.inj h⟩

namespace Outcome

variable {α γ : Type}

/-- An outcome with the image of its value. -/
def map (μ : α → γ) (o : Outcome α) : Outcome γ := ⟨μ o.value, o.asked, o.events⟩

lemma map_eq_map_iff {μ : α → γ} {o o' : Outcome α} :
    o.map μ = o'.map μ ↔ μ o.value = μ o'.value ∧ o.asked = o'.asked ∧ o.events = o'.events := by
  simp [map]

end Outcome

namespace Inquiry

variable {α β γ δ : Type} {μ : α → γ} {ν : β → δ}

/-- Over stores of one redaction, the inquiries ask the same questions and log the same events, and
`μ` does not tell their values apart. -/
def Alike (μ : α → γ) (x y : Inquiry α) : Prop :=
  ∀ s t : Store, s.redact = t.redact → (x.run s).map μ = (y.run t).map μ

namespace Alike

lemma pure {a b : α} (h : μ a = μ b) : Alike μ (Pure.pure a) (Pure.pure b) := by
  intro s t _
  rw [run_pure, run_pure, Outcome.map_eq_map_iff]
  exact ⟨h, rfl, rfl⟩

/-- A question, where what follows is alike for any two answers of one redaction. -/
lemma ask (q : Question) {f g : q.Answer → Inquiry α}
    (h : ∀ a b, q.redact a = q.redact b → Alike μ (f a) (g b)) :
    Alike μ (Inquiry.ask q f) (Inquiry.ask q g) := by
  intro s t same
  have answers : q.redact (s.answer q) = q.redact (t.answer q) :=
    congrFun (congrArg Store.answer same) q
  obtain ⟨value, asked, events⟩ := Outcome.map_eq_map_iff.mp (h _ _ answers s t same)
  exact Outcome.map_eq_map_iff.mpr ⟨value, congrArg (q :: ·) asked, events⟩

lemma tell (e : Event) : Alike id (Inquiry.tell e) (Inquiry.tell e) :=
  fun _ _ _ => rfl

/-- One inquiry after another. -/
lemma bind {x y : Inquiry α} {f g : α → Inquiry β} (hx : Alike μ x y)
    (hf : ∀ a b, μ a = μ b → Alike ν (f a) (g b)) : Alike ν (x >>= f) (y >>= g) := by
  intro s t h
  obtain ⟨value, asked, events⟩ := Outcome.map_eq_map_iff.mp (hx s t h)
  obtain ⟨value', asked', events'⟩ := Outcome.map_eq_map_iff.mp (hf _ _ value s t h)
  rw [run_bind, run_bind]
  refine Outcome.map_eq_map_iff.mpr ⟨value', ?_, ?_⟩
  · show _ ++ _ = _ ++ _
    rw [asked, asked']
  · show _ ++ _ = _ ++ _
    rw [events, events']

/-- Inquiries along a list. -/
lemma mapM {ι : Type} {f g : ι → Inquiry α} (h : ∀ i, Alike μ (f i) (g i)) (l : List ι) :
    Alike (List.map μ) (l.mapM f) (l.mapM g) := by
  induction l with
  | nil => exact .pure rfl
  | cons i rest ih =>
      rw [List.mapM_cons, List.mapM_cons]
      refine (h i).bind fun a a' first => ih.bind fun as as' later => .pure ?_
      rw [List.map_cons, List.map_cons, first, later]

end Alike

end Inquiry

/-! ### Reads that show the same -/

namespace Read

variable {α β γ δ : Type} {μ : α → γ} {ν : β → δ}

/-- Over stores of one redaction, the reads ask the same questions, log the same events and fail
with the same error, or `μ` does not tell their values apart. -/
def Alike (μ : α → γ) (x y : Read α) : Prop := Inquiry.Alike (Except.map μ) x.run y.run

/-- Over stores of one redaction, the read comes to the same in every respect. -/
abbrev Shown (x : Read α) : Prop := Alike id x x

namespace Alike

lemma ofExcept {r r' : Except ConfigError α} (h : r.map μ = r'.map μ) :
    Alike μ (Read.ofExcept r) (Read.ofExcept r') :=
  Inquiry.Alike.pure h

lemma pure {a b : α} (h : μ a = μ b) : Alike μ (Pure.pure a : Read α) (Pure.pure b) :=
  .ofExcept (congrArg Except.ok h)

lemma fail (e : ConfigError) : Alike μ (Read.fail e : Read α) (Read.fail e) :=
  .ofExcept rfl

/-- Inquiries that cannot fail. -/
lemma lift {x y : Inquiry α} (h : Inquiry.Alike μ x y) :
    Alike μ (ExceptT.lift x : Read α) (ExceptT.lift y) := by
  rw [Alike, ExceptT.run_lift, ExceptT.run_lift, map_eq_pure_bind, map_eq_pure_bind]
  exact h.bind fun a b same => .pure (congrArg Except.ok same)

/-- An answer shows its redaction. -/
lemma ask (q : Question) : Alike q.redact (Read.ask q) (Read.ask q) :=
  .lift (.ask q fun _ _ same => .pure same)

lemma tell (e : Event) : Shown (Read.tell e) :=
  .lift (.tell e)

/-- One read after another. -/
lemma bind {x y : Read α} {f g : α → Read β} (hx : Alike μ x y)
    (hf : ∀ a b, μ a = μ b → Alike ν (f a) (g b)) : Alike ν (x >>= f) (y >>= g) := by
  rw [Alike, ExceptT.run_bind, ExceptT.run_bind]
  refine Inquiry.Alike.bind hx fun r r' same => ?_
  rcases Except.cases_of_map_eq same with ⟨e, rfl, rfl⟩ | ⟨a, a', rfl, rfl, value⟩
  · exact .pure rfl
  · exact hf a a' value

/-- One read after another, where the first shows its value. -/
lemma bind_shown {x : Read α} {f g : α → Read β} (hx : Shown x)
    (hf : ∀ a, Alike ν (f a) (g a)) : Alike ν (x >>= f) (x >>= g) :=
  hx.bind fun a b (same : a = b) => same ▸ hf a

lemma map {x y : Read α} {f : α → β} (hx : Alike μ x y)
    (hf : ∀ a b, μ a = μ b → ν (f a) = ν (f b)) : Alike ν (f <$> x) (f <$> y) := by
  rw [map_eq_pure_bind, map_eq_pure_bind]
  exact hx.bind fun a b same => .pure (hf a b same)

lemma ite {c : Prop} [Decidable c] {x x' y y' : Read α} (hx : Alike μ x x') (hy : Alike μ y y') :
    Alike μ (if c then x else y) (if c then x' else y') := by
  split
  · exact hx
  · exact hy

lemma tellAll (events : List Event) : Shown (Read.tellAll events) := by
  induction events with
  | nil => exact .pure rfl
  | cons e rest ih => exact (Alike.tell e).bind_shown fun _ => ih

/-- What a failure is called shows nothing more. -/
lemma mapError (f : ConfigError → ConfigError) {x y : Read α} (hx : Alike μ x y) :
    Alike μ (x.mapError f) (y.mapError f) := by
  refine Inquiry.Alike.bind hx fun r r' same => .pure ?_
  rcases Except.cases_of_map_eq same with ⟨e, rfl, rfl⟩ | ⟨a, a', rfl, rfl, value⟩
  · rfl
  · exact congrArg Except.ok value

/-- A logged failure shows nothing more. -/
lemma tellError (event : ConfigError → Event) {x y : Read α} (hx : Alike μ x y) :
    Alike μ (x.tellError event) (y.tellError event) := by
  refine Inquiry.Alike.bind hx fun r r' same => ?_
  rcases Except.cases_of_map_eq same with ⟨e, rfl, rfl⟩ | ⟨a, a', rfl, rfl, value⟩
  · exact (Inquiry.Alike.tell _).bind fun _ _ _ => .pure rfl
  · exact .pure (congrArg Except.ok value)

/-- Reads along a list. -/
lemma mapM {ι : Type} {f g : ι → Read α} (h : ∀ i, Alike μ (f i) (g i)) (l : List ι) :
    Alike (List.map μ) (l.mapM f) (l.mapM g) := by
  induction l with
  | nil => exact .pure rfl
  | cons i rest ih =>
      rw [List.mapM_cons, List.mapM_cons]
      refine (h i).bind fun a a' first => ih.bind fun as as' later => .pure ?_
      rw [List.map_cons, List.map_cons, first, later]

/-- A loop along a list, each round of which shows what it comes to. -/
lemma forIn {ι : Type} {f : ι → α → Read (ForInStep α)} (h : ∀ i a, Shown (f i a))
    (l : List ι) (a : α) : Shown (forIn l a f) := by
  induction l generalizing a with
  | nil => exact .pure rfl
  | cons i rest ih =>
      rw [List.forIn_cons]
      refine (h i a).bind_shown fun round => ?_
      cases round with
      | done b => exact .pure rfl
      | yield b => exact ih b

end Alike

end Read

/-! ### Typed reads -/

/-- What a reading yields, with all secrets in it redacted. -/
def Reading.redact : (reading : Reading) → reading.Answer → reading.Answer
  | .webServices => List.map WebService.redact
  | .password => Option.map Secret.redact
  | .namedSecrets => OrderedMap.map NamedSecret.redact
  | _ => id

/-- A reading that takes no value with secrets shows all that it decodes. -/
lemma Reading.decode_redact_of_shown {reading : Reading} (shown : reading.redact = id)
    (other : ∀ k ∈ reading.shapes, k ∉ StoredValue.secretShapes) (x : Setting) (v : StoredValue) :
    reading.decode x v.redact = (reading.decode x v).map (Prod.map reading.redact id) := by
  have whole : (reading.decode x v).map (Prod.map reading.redact id) = reading.decode x v := by
    rw [shown, Prod.map_id, Except.map_id, id]
  by_cases taken : v.shape ∈ reading.shapes
  · rw [whole, StoredValue.redact_of_notMem_secretShapes (other _ taken)]
  · rw [whole, decode_of_notMem_shapes taken, decode_of_notMem_shapes (v.shape_redact ▸ taken),
      v.shape_redact]

/-- A redacted value decodes to what the value decodes to, redacted; it is refused for the same
reason. -/
lemma Reading.decode_redact (reading : Reading) (x : Setting) (v : StoredValue) :
    reading.decode x v.redact = (reading.decode x v).map (Prod.map reading.redact id) := by
  cases reading with
  | webServices => cases v <;> rfl
  | password => cases v <;> rfl
  | namedSecrets => cases v <;> rfl
  | _ => exact decode_redact_of_shown rfl (by simp [shapes, StoredValue.secretShapes]) x v

namespace Reader

open Read

variable (r : Reader) (x : Setting)

lemma alike_raw : Alike StoredValue.redact (r.raw x) (r.raw x) :=
  .bind_shown (.ofExcept rfl) fun profile => .ask (.value x profile)

lemma shown_isDefault : Shown (r.isDefault x) :=
  .bind_shown (.ofExcept rfl) fun profile => .ask (.isDefault x profile)

/-- Under every reading, a read shows its answer redacted. -/
lemma alike_read (reading : Reading) :
    Alike reading.redact (r.read x reading) (r.read x reading) := by
  refine (r.alike_raw x).bind fun v w same => ?_
  have decoded : (reading.decode x v).map (Prod.map reading.redact id)
      = (reading.decode x w).map (Prod.map reading.redact id) := by
    rw [← reading.decode_redact, ← reading.decode_redact, same]
  refine (Alike.ofExcept decoded).bind fun a b both => ?_
  obtain ⟨answer, warnings⟩ := a
  obtain ⟨answer', warnings'⟩ := b
  obtain ⟨answers, rfl⟩ := Prod.mk.inj both
  exact (Alike.tellAll warnings).bind_shown fun _ => .pure answers

lemma shown_number : Shown (r.number x) :=
  (r.alike_read x .number).bind_shown fun _ => .pure rfl

lemma shown_requiredText : Shown (r.requiredText x) :=
  (r.alike_read x .text).bind_shown fun _ => .ite (.fail _) (.pure rfl)

lemma shown_count : Shown (r.count x) :=
  (r.shown_number x).bind_shown fun _ => .ite (.fail _) (.pure rfl)

end Reader

/-! ### Profiles -/

/-- A directory with its password redacted. -/
def Directory.redact (d : Directory) : Directory :=
  { d with proxyPassword := d.proxyPassword.map Secret.redact }

/-- A mail server with its password redacted. -/
def EmailServer.redact (s : EmailServer) : EmailServer :=
  { s with password := s.password.map Secret.redact }

/-- A profile of some kind with all secrets in it redacted. -/
def ProfileKind.redact : (k : ProfileKind) → k.Record → k.Record
  | .directory => Directory.redact
  | .emailServer => EmailServer.redact
  | _ => id

/-- A profile with all secrets in it redacted. -/
def Profile.redact (p : Profile) : Profile := ⟨p.kind, p.kind.redact p.record⟩

section profiles

open Read Reader

variable (r : Reader)

lemma Directory.alike_read : Alike Directory.redact (Directory.read r) (Directory.read r) := by
  refine (r.alike_read _ .flag).bind_shown fun enabled => (r.alike_read _ .texts).bind_shown
    fun serverAddresses => .ite (.fail _) ?_
  refine (r.alike_read _ (.localizedText .root)).bind_shown fun name =>
    (r.alike_read _ .text).bind_shown fun proxyUser =>
    (r.alike_read _ .password).bind fun password password' same => ?_
  refine (r.alike_read _ .certificates).bind_shown fun certificates =>
    (r.alike_read _ .texts).bind_shown fun loginContexts =>
    (r.alike_read _ .text).bind_shown fun usernameFilter =>
    (r.alike_read _ .text).bind_shown fun guidAttribute => .pure ?_
  exact congrArg (Directory.mk _ _ _ _ _ · _ _ _ _) same

lemma PasswordChange.shown_read : Shown (PasswordChange.read r) :=
  .bind_shown (r.alike_read _ .permissions) fun _ => .bind_shown (r.alike_read _ .flag) fun _ =>
    .bind_shown (r.alike_read _ .actions) fun _ => .pure rfl

lemma PasswordRecovery.shown_read : Shown (PasswordRecovery.read r) :=
  .bind_shown (r.alike_read _ (.someOf RecoveryMethod)) fun _ => .ite (.fail _) <|
    .bind_shown (r.alike_read _ (.oneOf SendMethod)) fun _ =>
    .bind_shown (.ofExcept rfl) fun _ => .bind_shown (r.alike_read _ .permissions) fun _ =>
    .bind_shown (r.alike_read _ .form) fun _ => .pure rfl

lemma Activation.shown_read : Shown (Activation.read r) :=
  .bind_shown (r.alike_read _ .permissions) fun _ => .bind_shown (r.alike_read _ .form) fun _ =>
    .bind_shown (r.alike_read _ .actions) fun _ => .pure rfl

lemma Registration.shown_read : Shown (Registration.read r) :=
  .bind_shown (r.alike_read _ .form) fun _ => .bind_shown (r.shown_requiredText _) fun _ =>
    .bind_shown (r.alike_read _ .text) fun _ => .bind_shown (r.alike_read _ .actions) fun _ =>
    .pure rfl

lemma Helpdesk.shown_read : Shown (Helpdesk.read r) :=
  .bind_shown (r.alike_read _ .permissions) fun _ => .bind_shown (r.alike_read _ .form) fun _ =>
    .bind_shown (r.alike_read _ .actions) fun _ => .pure rfl

lemma OtpSetup.shown_read : Shown (OtpSetup.read r) :=
  .bind_shown (r.alike_read _ .permissions) fun _ => .bind_shown (r.alike_read _ .flag) fun _ =>
    .pure rfl

lemma AttributeUpdate.shown_read : Shown (AttributeUpdate.read r) :=
  .bind_shown (r.alike_read _ .permissions) fun _ => .bind_shown (r.alike_read _ .form) fun _ =>
    .bind_shown (r.alike_read _ .actions) fun _ => .pure rfl

lemma PeopleSearch.shown_read (isPublic : Bool) : Shown (PeopleSearch.read isPublic r) := by
  refine (r.shown_number _).bind_shown fun _ => .ite ?_ ?_
  -- a public search does not ask whom it applies to
  · exact .bind_shown (.pure rfl) fun _ => .bind_shown (r.alike_read _ .form) fun _ =>
      .bind_shown (r.alike_read _ .form) fun _ => .pure rfl
  · exact .bind_shown (r.alike_read _ .permissions) fun _ =>
      .bind_shown (r.alike_read _ .form) fun _ => .bind_shown (r.alike_read _ .form) fun _ =>
      .pure rfl

lemma EmailServer.alike_read :
    Alike EmailServer.redact (EmailServer.read r) (EmailServer.read r) := by
  refine (r.shown_number _).bind_shown fun portNumber => .ite (.fail _) ?_
  refine (r.shown_requiredText _).bind_shown fun address =>
    (r.alike_read _ .text).bind_shown fun username =>
    (r.alike_read _ .password).bind fun password password' same => ?_
  refine (r.alike_read _ .text).bind_shown fun sender => .pure ?_
  exact congrArg (EmailServer.mk _ _ _ _ · _) same

lemma PasswordPolicy.shown_read (locale : Locale) : Shown (PasswordPolicy.read r locale) :=
  .bind_shown (r.shown_count _) fun _ => .bind_shown (r.shown_count _) fun _ =>
    .ite (.fail _) <| .bind_shown (r.alike_read _ .permissions) fun _ =>
    .bind_shown (r.shown_count _) fun _ => .bind_shown (r.shown_count _) fun _ =>
    .bind_shown (r.shown_count _) fun _ => .bind_shown (r.shown_count _) fun _ =>
    .bind_shown (r.alike_read _ .texts) fun _ =>
    .bind_shown (r.alike_read _ (.localizedText locale)) fun _ => .pure rfl

lemma ChallengeProfile.shown_read (locale : Locale) : Shown (ChallengeProfile.read r locale) :=
  .bind_shown (r.alike_read _ (.localizedTexts locale)) fun _ =>
    .bind_shown (r.shown_number _) fun _ => .ite (.fail _) <|
    .bind_shown (r.alike_read _ (.localizedTexts locale)) fun _ => .pure rfl

/-- The record of every kind of profile shows its redaction. -/
lemma Definition.alike_readRecord (isPublic : Bool) (k : ProfileKind) :
    Alike k.redact (Definition.readRecord isPublic r k) (Definition.readRecord isPublic r k) := by
  cases k with
  | directory => exact Directory.alike_read r
  | passwordChange => exact PasswordChange.shown_read r
  | passwordRecovery => exact PasswordRecovery.shown_read r
  | activation => exact Activation.shown_read r
  | registration => exact Registration.shown_read r
  | helpdesk => exact Helpdesk.shown_read r
  | otpSetup => exact OtpSetup.shown_read r
  | attributeUpdate => exact AttributeUpdate.shown_read r
  | peopleSearch => exact PeopleSearch.shown_read r isPublic
  | emailServer => exact EmailServer.alike_read r

/-- The profile of a reader shows its redaction, under every definition; where it cannot be built
the error that is reported shows no secret. -/
theorem Definition.alike_build (d : Definition) :
    Alike Profile.redact (d.build r) (d.build r) := by
  unfold Definition.build
  split
  · exact .fail _
  · next k _ =>
      exact .mapError _ <| (Definition.alike_readRecord r _ k).map fun a b same =>
        congrArg (Profile.mk k) same

end profiles

end TenantSettings

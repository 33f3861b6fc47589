import TenantSettings.Proofs.Secrecy.Reading
import TenantSettings.Proofs.Tenant.Soundness

/-!
# Password policies in two locales

A policy is read for one locale, and kept for each locale apart. The locale only decides which
message users are shown: it is the last thing that is read, the shape of what is stored for it does
not depend on the locale, and nothing else looks at the locale. So two attempts at the policy of one
profile, in two locales, fail alike or yield the same rules.

* `PasswordPolicy.SameRules`: policies that differ at most in their locale and in their message, and
  `SameRules.check_eq`, that they judge passwords alike.
* `Reader.alike_localizedText`, `PasswordPolicy.alike_read_locales`: reads that only differ in the
  locale.
* `Tenant.policies_of_locales`: policies in two locales, after any requests.
-/

namespace TenantSettings

open Read

namespace PasswordPolicy

/-! ### What does not depend on the locale -/

/-- A policy with its locale and its message blotted out. -/
def unlocalized (p : PasswordPolicy) : PasswordPolicy :=
  { p with locale := .root, changeMessage := "" }

/-- Two policies that differ at most in their locale and in their message. -/
def SameRules (p q : PasswordPolicy) : Prop :=
  q = { p with locale := q.locale, changeMessage := q.changeMessage }

variable {p q : PasswordPolicy}

lemma sameRules_of_unlocalized (same : p.unlocalized = q.unlocalized) : p.SameRules q := by
  cases p
  cases q
  simpa [SameRules, unlocalized, eq_comm] using same

/-- Such policies judge passwords alike. -/
lemma SameRules.check_eq (same : p.SameRules q) (password : String) :
    p.check password = q.check password := by
  rw [same]
  rfl

end PasswordPolicy

/-! ### Reads in two locales -/

/-- What follows one result does not matter beyond its image. -/
lemma Except.map_bind_congr {ε α β γ : Type} {μ : β → γ} (r : Except ε α) {f g : α → Except ε β}
    (same : ∀ a, (f a).map μ = (g a).map μ) : (r >>= f).map μ = (r >>= g).map μ := by
  cases r with
  | error e => rfl
  | ok a => exact same a

/-- Reads that show the same have results of the same image over every store. -/
lemma Read.Alike.result_eq {α γ : Type} {μ : α → γ} {x y : Read α} (alike : Alike μ x y)
    (store : Store) : (x.result store).map μ = (y.result store).map μ :=
  (Outcome.map_eq_map_iff.mp (alike store store rfl)).1

/-- The warnings about a value do not depend on its secrets. -/
lemma Reading.warnings_redact (reading : Reading) (x : Setting) (v : StoredValue) :
    (reading.decode x v.redact).map Prod.snd = (reading.decode x v).map Prod.snd := by
  rw [reading.decode_redact]
  cases reading.decode x v <;> rfl

section locales

variable (r : Reader) (l l' : Locale)

/-- A text that is read in two locales is refused for the same reason, or found in both. -/
lemma Reader.alike_localizedText (x : Setting) :
    Alike (fun _ => ()) (r.localizedText x l) (r.localizedText x l') := by
  refine (r.alike_raw x).bind fun v w same => ?_
  have decoded : ((Reading.localizedText l).decode x v).map Prod.snd
      = ((Reading.localizedText l').decode x w).map Prod.snd := by
    calc ((Reading.localizedText l).decode x v).map Prod.snd
        = ((Reading.localizedText l').decode x v).map Prod.snd := by cases v <;> rfl
      _ = ((Reading.localizedText l').decode x v.redact).map Prod.snd :=
        (Reading.warnings_redact _ x v).symm
      _ = ((Reading.localizedText l').decode x w).map Prod.snd := by
        rw [same, Reading.warnings_redact]
  refine (Alike.ofExcept decoded).bind fun a b (warnings : a.2 = b.2) => ?_
  show Alike _ (tellAll a.2 >>= fun _ => Pure.pure a.1) (tellAll b.2 >>= fun _ => Pure.pure b.1)
  rw [warnings]
  exact (Alike.tellAll b.2).bind_shown fun _ => .pure rfl

/-- Policies that are read in two locales fail alike or have the same rules. -/
lemma PasswordPolicy.alike_read_locales :
    Alike unlocalized (PasswordPolicy.read r l) (PasswordPolicy.read r l') := by
  refine (r.shown_count _).bind_shown fun _ => (r.shown_count _).bind_shown fun _ =>
    .ite (.fail _) ?_
  refine (r.alike_read _ .permissions).bind_shown fun _ => (r.shown_count _).bind_shown fun _ =>
    (r.shown_count _).bind_shown fun _ => (r.shown_count _).bind_shown fun _ =>
    (r.shown_count _).bind_shown fun _ => (r.alike_read _ .texts).bind_shown fun _ => ?_
  exact (r.alike_localizedText l l' _).bind fun _ _ _ => .pure rfl

end locales

/-! ### Policies of a tenant -/

namespace Tenant

variable (t : Tenant) (store : Store)

/-- What a tenant that was asked for some things before answers when it is asked for a policy. -/
def policyAfter (before : List Request) (id : String) (locale : Locale) :
    Except ConfigError PasswordPolicy :=
  (t.serve store (t.memoryAfter store .empty before) (.passwordPolicy id locale)).value.1

lemma policyAfter_eq (before : List Request) (id : String) (locale : Locale) :
    t.policyAfter store before id locale
      = resolveProfile .passwordPolicy id (store.answer (.profileIds .passwordPolicy))
        >>= fun found => (PasswordPolicy.read (t.reader (some found)) locale).result store := by
  rw [policyAfter, serve_memoryAfter_eq_answer, answer]
  simp only [derive, result_buildPolicy]

/-- The locale, and what was asked before, do not reach the rules of a policy or its failure. -/
lemma map_unlocalized_policyAfter (before before' : List Request) (id : String) (l l' : Locale) :
    (t.policyAfter store before id l).map PasswordPolicy.unlocalized
      = (t.policyAfter store before' id l').map PasswordPolicy.unlocalized := by
  rw [t.policyAfter_eq store before, t.policyAfter_eq store before']
  exact Except.map_bind_congr _ fun found =>
    (PasswordPolicy.alike_read_locales (t.reader (some found)) l l').result_eq store

/-- Over every store, whatever was asked before the one and before the other: the policy of a
profile is answered in one locale exactly if it is in another, refused with the same error
otherwise, and the two policies are the same but for their locale and their message, so that they
find the same violations in every password. -/
theorem policies_of_locales (before before' : List Request) (id : String) (l l' : Locale) :
    ((∃ p, t.policyAfter store before id l = .ok p)
        ↔ ∃ q, t.policyAfter store before' id l' = .ok q)
      ∧ (∀ e, t.policyAfter store before id l = .error e
          ↔ t.policyAfter store before' id l' = .error e)
      ∧ ∀ p q, t.policyAfter store before id l = .ok p →
          t.policyAfter store before' id l' = .ok q →
          p.SameRules q ∧ ∀ password, p.check password = q.check password := by
  have same := t.map_unlocalized_policyAfter store before before' id l l'
  rcases Except.cases_of_map_eq same with ⟨e, refused, refused'⟩ | ⟨p, q, read, read', rules⟩
  · rw [refused, refused']
    simp
  · rw [read, read']
    refine ⟨by simp, by simp, ?_⟩
    intro p' q' answered answered'
    obtain rfl := Except.ok.inj answered
    obtain rfl := Except.ok.inj answered'
    have alike := PasswordPolicy.sameRules_of_unlocalized rules
    exact ⟨alike, alike.check_eq⟩

/-- A policy in two languages: the messages differ, and the same passwords are turned down. -/
theorem policies_of_locales_german :
    let steps : List Snapshot.Step :=
      [.profileValue Schema.passwordPolicyMinimumUppercase "corp" (.number 1),
        .profileValue Schema.passwordPolicyChangeMessage "corp" (.localizedText
          (.ofList [("", "Choose a password."), ("de", "Wähle ein Passwort.")]))]
    let t : Tenant := ⟨"example.org", .default, fun _ _ => 0⟩
    ∃ s, Snapshot.build steps = .ok s
      ∧ ∃ p q, t.policyAfter s.store [.digest] "corp" .root = .ok p
        ∧ t.policyAfter s.store [.passwordPolicy "corp" .root, .directories] "corp" ⟨"de"⟩ = .ok q
        ∧ p.changeMessage = "Choose a password." ∧ q.changeMessage = "Wähle ein Passwort."
        ∧ ∀ password, p.check password = q.check password := by
  intro steps t
  have built : Snapshot.build steps = .ok (steps.foldl Snapshot.apply .empty) := rfl
  obtain ⟨p, english, shown⟩ : ∃ p,
      t.answer (steps.foldl Snapshot.apply .empty).store (.passwordPolicy "corp" .root) = .ok p
        ∧ p.changeMessage = "Choose a password." := ⟨_, rfl, rfl⟩
  obtain ⟨q, german, shown'⟩ : ∃ q,
      t.answer (steps.foldl Snapshot.apply .empty).store (.passwordPolicy "corp" ⟨"de"⟩) = .ok q
        ∧ q.changeMessage = "Wähle ein Passwort." := ⟨_, rfl, rfl⟩
  rw [← t.serve_memoryAfter_eq_answer _ [.digest]] at english
  rw [← t.serve_memoryAfter_eq_answer _ [.passwordPolicy "corp" .root, .directories]] at german
  obtain ⟨-, -, agree⟩ := t.policies_of_locales (steps.foldl Snapshot.apply .empty).store [.digest]
    [.passwordPolicy "corp" .root, .directories] "corp" .root ⟨"de"⟩
  exact ⟨_, built, p, q, english, german, shown, shown', (agree p q english german).2⟩

end Tenant

end TenantSettings

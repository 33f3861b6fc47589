import TenantSettings.Proofs.Reader.Scope
import TenantSettings.Store.Snapshot
import TenantSettings.Tenant.Request

/-!
# Profiles are isolated

What is read through the reader of a profile depends on nothing that is stored for other profiles.
Two stores are run against each other: where they agree outside of all profiles and under one
profile, the reader of that profile cannot tell them apart.

* `Store.AgreeFor`: two stores that may differ in other profiles only.
* `Reader.answer_eq_of_sees`: their answers agree within the scope of the reader.
* `Reader.isolated`: so does all that comes of reads, of profiles, and of policies and challenges in
  any locale.  A setting without profiles is moreover the same for every reader.
-/

namespace TenantSettings

/-! ### Stores that differ in other profiles only -/

/-- Two stores give the same answers about every setting without profiles, and about every profiled
setting under one profile.  Under other profiles they may differ in any way. -/
structure Store.AgreeFor (profile : String) (s t : Store) : Prop where
  plainValue : ∀ x : Setting, x.isProfiled = false →
    s.answer (.value x none) = t.answer (.value x none)
  plainIsDefault : ∀ x : Setting, x.isProfiled = false →
    s.answer (.isDefault x none) = t.answer (.isDefault x none)
  profiledValue : ∀ x : Setting, x.isProfiled = true →
    s.answer (.value x (some profile)) = t.answer (.value x (some profile))
  profiledIsDefault : ∀ x : Setting, x.isProfiled = true →
    s.answer (.isDefault x (some profile)) = t.answer (.isDefault x (some profile))

/-- A value that is stored for another profile makes no difference. -/
lemma Store.agreeFor_answering (s : Store) {profile other : String} (h : other ≠ profile)
    (x : Setting) (v : StoredValue) :
    AgreeFor profile s (s.answering (.value x (some other)) v) := by
  have kept : ∀ q : Question, .value x (some other) ≠ q →
      s.answer q = (s.answering (.value x (some other)) v).answer q :=
    fun q hq => (s.answer_answering_of_ne v hq).symm
  refine ⟨fun y _ => kept _ ?_, fun y _ => kept _ ?_, fun y _ => kept _ ?_, fun y _ => kept _ ?_⟩
  · simp
  · simp
  · simp [h]
  · simp

namespace Reader

/-! ### The scope of a reader within a profile -/

/-- A setting without profiles is looked up outside of all profiles, whoever reads it. -/
lemma scope_of_unprofiled (r : Reader) {x : Setting} (h : x.isProfiled = false) :
    r.scope x = .ok none := by
  simp [scope, h]

/-- A profiled setting is looked up under the profile of the reader. -/
lemma scope_of_profiled (domain profile : String) {x : Setting} (h : x.isProfiled = true) :
    scope ⟨domain, some profile⟩ x = .ok (some profile) := by
  simp [scope, h]

/-- Stores that agree for a profile answer alike within the scope of its reader. -/
lemma answer_eq_of_sees {domain profile : String} {s t : Store} (agree : s.AgreeFor profile t)
    {q : Question} (sees : Sees ⟨domain, some profile⟩ q) : s.answer q = t.answer q := by
  -- which question is asked for a setting depends on whether it has profiles
  cases sees with
  | @value x found scope =>
      cases profiled : x.isProfiled with
      | false =>
          rw [scope_of_unprofiled _ profiled] at scope
          cases scope
          exact agree.plainValue x profiled
      | true =>
          rw [scope_of_profiled _ _ profiled] at scope
          cases scope
          exact agree.profiledValue x profiled
  | @isDefault x found scope =>
      cases profiled : x.isProfiled with
      | false =>
          rw [scope_of_unprofiled _ profiled] at scope
          cases scope
          exact agree.plainIsDefault x profiled
      | true =>
          rw [scope_of_profiled _ _ profiled] at scope
          cases scope
          exact agree.profiledIsDefault x profiled

/-- Nothing that stays within the scope of a reader tells stores apart that agree for its
profile. -/
lemma carryOut_eq_of_agreeFor {α : Type} {domain profile : String} {s t : Store}
    (agree : s.AgreeFor profile t) {x : Read α}
    (within : Read.AsksOnly (Sees ⟨domain, some profile⟩) x) : x.carryOut s = x.carryOut t :=
  within.carryOut_congr fun _ sees => answer_eq_of_sees agree sees

/-! ### Settings without profiles -/

/-- Whoever reads a setting without profiles, it is the same read. -/
lemma raw_of_unprofiled (r r' : Reader) {x : Setting} (h : x.isProfiled = false) :
    r.raw x = r'.raw x := by
  rw [raw, raw, r.scope_of_unprofiled h, r'.scope_of_unprofiled h]

lemma isDefault_of_unprofiled (r r' : Reader) {x : Setting} (h : x.isProfiled = false) :
    r.isDefault x = r'.isDefault x := by
  rw [isDefault, isDefault, r.scope_of_unprofiled h, r'.scope_of_unprofiled h]

lemma read_of_unprofiled (r r' : Reader) {x : Setting} (h : x.isProfiled = false)
    (reading : Reading) : r.read x reading = r'.read x reading := by
  rw [read, read, r.raw_of_unprofiled r' h]

/-! ### Isolation -/

/-- Over stores that agree for a profile, whatever is read through the reader of that profile comes
to the same: every setting under every reading, whether it is the default, the profile of every
definition, and in every locale the password policy and the challenges.  Not only are the values and
errors the same, but also what is asked and what is logged.  A setting without profiles comes to the
same for a tenant as for its reader of any profile. -/
theorem isolated {profile : String} {s t : Store} (agree : s.AgreeFor profile t) (domain : String) :
    let r : Reader := ⟨domain, some profile⟩
    (∀ (x : Setting) (reading : Reading),
        (r.read x reading).carryOut s = (r.read x reading).carryOut t)
      ∧ (∀ x : Setting, (r.raw x).carryOut s = (r.raw x).carryOut t)
      ∧ (∀ x : Setting, (r.isDefault x).carryOut s = (r.isDefault x).carryOut t)
      ∧ (∀ d : Definition, (d.build r).carryOut s = (d.build r).carryOut t)
      ∧ (∀ locale : Locale, (PasswordPolicy.read r locale).carryOut s
          = (PasswordPolicy.read r locale).carryOut t)
      ∧ (∀ locale : Locale, (ChallengeProfile.read r locale).carryOut s
          = (ChallengeProfile.read r locale).carryOut t)
      ∧ ∀ (tenant : Tenant) (store : Store) (m : Memory) (id : String) (x : Setting),
          x.isProfiled = false →
          (∀ reading : Reading, tenant.serve store m (.read none x reading)
            = (Call.ofRead ((tenant.reader (some id)).read x reading)).carryOut store m)
          ∧ tenant.serve store m (.raw none x)
            = (Call.ofRead ((tenant.reader (some id)).raw x)).carryOut store m
          ∧ tenant.serve store m (.isDefault none x)
            = (Call.ofRead ((tenant.reader (some id)).isDefault x)).carryOut store m := by
  intro r
  refine ⟨fun x reading => ?_, fun x => ?_, fun x => ?_, fun d => ?_, fun locale => ?_,
    fun locale => ?_, fun tenant store m id x unprofiled => ⟨fun reading => ?_, ?_, ?_⟩⟩
  -- what is read depends on the questions that are asked, on which the stores agree
  · exact carryOut_eq_of_agreeFor agree (r.asksOnly_read x reading)
  · exact carryOut_eq_of_agreeFor agree (r.asksOnly_raw x)
  · exact carryOut_eq_of_agreeFor agree (r.asksOnly_isDefault x)
  · exact carryOut_eq_of_agreeFor agree (Definition.asksOnly_build r d)
  · exact carryOut_eq_of_agreeFor agree (PasswordPolicy.asksOnly_read r locale)
  · exact carryOut_eq_of_agreeFor agree (ChallengeProfile.asksOnly_read r locale)
  -- outside of profiles the id of the reader is not looked at
  · rw [Tenant.serve, Request.call, read_of_unprofiled _ (tenant.reader (some id)) unprofiled]
  · rw [Tenant.serve, Request.call, raw_of_unprofiled _ (tenant.reader (some id)) unprofiled]
  · rw [Tenant.serve, Request.call, isDefault_of_unprofiled _ (tenant.reader (some id)) unprofiled]

/-- The directory of one profile, over a store that has servers for another. -/
theorem isolated_from_other_directory :
    let bare := Snapshot.empty.store
    let served := bare.answering (.value Schema.ldapServerAddresses (some "west"))
      (.texts ["ldaps://west.example.org"])
    let r : Reader := ⟨"example.org", some "east"⟩
    bare.AgreeFor "east" served
      ∧ bare.answer (.value Schema.ldapServerAddresses (some "west"))
        ≠ served.answer (.value Schema.ldapServerAddresses (some "west"))
      ∧ (Definition.ldap.build r).carryOut bare = (Definition.ldap.build r).carryOut served := by
  intro bare served r
  have agree : bare.AgreeFor "east" served :=
    bare.agreeFor_answering (by decide) Schema.ldapServerAddresses _
  refine ⟨agree, ?_, (isolated agree "example.org").2.2.2.1 .ldap⟩
  decide

end Reader

end TenantSettings

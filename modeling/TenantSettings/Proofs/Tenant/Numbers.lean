import TenantSettings.Proofs.Reader.Stored
import TenantSettings.Proofs.Tenant.PolicyLocale
import TenantSettings.Proofs.Tenant.ProfileErrors

/-!
# Numbers in profiles

Stored numbers have a sign and sixty-four bits, and a profile holds numbers that are narrower. None
of them is ever another number than the stored one: a count of a password policy and a mail port are
refused where they do not fit, and a limit below zero is read as none at all. A password policy
checks its counts one by one, and its lengths against each other as soon as both are known.

* `PasswordPolicy.Condition`: what the stored counts have to meet, in the order of the checks;
  `PasswordPolicy.firstFault?_eq_none_iff`, when they do.
* `PasswordPolicy.meets_stored`, `EmailServer.meets_stored`, `PeopleSearch.meets_stored`: what each
  profile comes to, over any store.
* `Tenant.numbers_kept`: the numbers in the profiles of a tenant.
-/

namespace TenantSettings

open Read ConfigError

/-! ### Settings that are read as they are declared -/

namespace Reader

/-- A setting that is read as it is declared, and is not refused for what it holds, fails with
nothing but errors of one sort. -/
def FailsOnly (r : Reader) (store : Store) (E : ConfigError → Prop) : Prop :=
  ∀ (x : Setting) (reading : Reading), reading.takesAll = true → x.shape ∈ reading.shapes →
    Meets store (fun _ => True) E (r.read x reading)

/-- Over any store it fails without a code, -/
lemma failsOnly_codeIn (r : Reader) (store : Store) (codes : List ErrorCode) :
    r.FailsOnly store (CodeIn codes) :=
  fun x _ all _ => (r.meets_read x all).mono (fun _ _ => trivial) fun _ coded => coded

/-- and over a snapshot, in a profile, not at all. -/
lemma failsOnly_stored {r : Reader} {s : Snapshot} (fits : s.Admitted)
    (named : r.profile.isSome = true) : r.FailsOnly s.store fun _ => False :=
  fun x _ all own => meets_read_stored fits named x all own

lemma FailsOnly.mono {r : Reader} {store : Store} {E F : ConfigError → Prop}
    (reads : r.FailsOnly store E) (weaker : ∀ e, E e → F e) : r.FailsOnly store F :=
  fun x _ all own => (reads x _ all own).mono (fun _ h => h) weaker

end Reader

/-! ### Password policies -/

namespace PasswordPolicy

/-- The counts of a policy. -/
inductive Count where
  | minimumLength | maximumLength | minimumUppercase | minimumLowercase | minimumNumeric
  | minimumSpecial
deriving DecidableEq

namespace Count

/-- The setting that a count is stored under. -/
def setting : Count → Setting
  | minimumLength => Schema.passwordPolicyMinimumLength
  | maximumLength => Schema.passwordPolicyMaximumLength
  | minimumUppercase => Schema.passwordPolicyMinimumUppercase
  | minimumLowercase => Schema.passwordPolicyMinimumLowercase
  | minimumNumeric => Schema.passwordPolicyMinimumNumeric
  | minimumSpecial => Schema.passwordPolicyMinimumSpecial

/-- A count of a policy. -/
def of (p : PasswordPolicy) : Count → Nat
  | minimumLength => p.minimumLength
  | maximumLength => p.maximumLength
  | minimumUppercase => p.minimumUppercase
  | minimumLowercase => p.minimumLowercase
  | minimumNumeric => p.minimumNumeric
  | minimumSpecial => p.minimumSpecial

lemma isProfiled_setting (c : Count) : c.setting.isProfiled = true := by cases c <;> rfl

lemma shape_setting (c : Count) : c.setting.shape = .number := by cases c <;> rfl

end Count

/-- What the stored counts of a policy have to meet: none is negative, and the lengths are in
order. -/
inductive Condition where
  | natural (c : Count)
  | lengths

namespace Condition

/-- The conditions in the order in which they are checked. -/
def all : List Condition :=
  [natural .minimumLength, natural .maximumLength, lengths, natural .minimumUppercase,
    natural .minimumLowercase, natural .minimumNumeric, natural .minimumSpecial]

/-- What is wrong with stored counts that do not meet a condition. -/
def fault? (stored : Count → Int64) : Condition → Option ProfileFault
  | natural c =>
    if (stored c).toInt < 0 then some (.negative c.setting.key (stored c).toInt) else none
  | lengths =>
    let minimum := (stored .minimumLength).toInt
    let maximum := (stored .maximumLength).toInt
    if 0 < maximum ∧ maximum < minimum then some (.lengthOrder minimum.toNat maximum.toNat)
    else none

lemma mem_all (x : Condition) : x ∈ all := by
  cases x with
  | natural c => cases c <;> simp [all]
  | lengths => simp [all]

end Condition

/-- What is found wrong first with stored counts. -/
def firstFault? (stored : Count → Int64) : Option ProfileFault :=
  Condition.all.findSome? (Condition.fault? stored)

/-- Nothing is wrong if no count is negative and the maximum length is zero or not below the
minimum. -/
lemma firstFault?_eq_none_iff {stored : Count → Int64} :
    firstFault? stored = none ↔ (∀ c, 0 ≤ (stored c).toInt)
      ∧ ((stored .maximumLength).toInt = 0
        ∨ (stored .minimumLength).toInt ≤ (stored .maximumLength).toInt) := by
  have each : firstFault? stored = none ↔ ∀ x : Condition, x.fault? stored = none := by
    simp [firstFault?, List.findSome?_eq_none_iff, Condition.mem_all]
  rw [each]
  constructor
  · intro met
    have natural : ∀ c, 0 ≤ (stored c).toInt := fun c => by
      simpa [Condition.fault?] using met (.natural c)
    have inOrder := met .lengths
    simp only [Condition.fault?, ite_eq_right_iff, reduceCtorEq, imp_false] at inOrder
    have low := natural .maximumLength
    exact ⟨natural, by omega⟩
  · rintro ⟨natural, inOrder⟩ x
    cases x with
    | natural c => simpa [Condition.fault?] using natural c
    | lengths =>
        simp only [Condition.fault?, ite_eq_right_iff, reduceCtorEq, imp_false]
        omega

/-- A condition that stored counts do not meet is found first if they meet all before it. -/
lemma firstFault?_eq_some {stored : Count → Int64} {before after : List Condition} {x : Condition}
    {f : ProfileFault} (split : Condition.all = before ++ x :: after)
    (met : ∀ y ∈ before, y.fault? stored = none) (found : x.fault? stored = some f) :
    firstFault? stored = some f := by
  have passed : before.findSome? (Condition.fault? stored) = none :=
    List.findSome?_eq_none_iff.mpr met
  rw [firstFault?, split, List.findSome?_append, passed, List.findSome?_cons, found]
  rfl

/-- What comes of stored counts: a policy has them, and with a negative one there is none, which is
for the profile or for a setting that cannot be read at all. -/
structure CountsKept (stored : Count → Int64) (result : Except ConfigError PasswordPolicy) :
    Prop where
  exact : ∀ p, result = .ok p → ∀ c : Count, (c.of p : Int) = (stored c).toInt
  negative : ∀ c, (stored c).toInt < 0 →
    ∃ e, result = .error e ∧ e.CodeIn [.profileConstruction]

/-- The stored counts decide whether there is a policy: no count may be negative, and the maximum
length may be below the minimum only if it is zero. If there is none the profile cannot be built,
for what is found wrong first. -/
structure Decided (id : String) (stored : Count → Int64)
    (result : Except ConfigError PasswordPolicy) : Prop extends CountsKept stored result where
  accepted_iff : (∃ p, result = .ok p) ↔ (∀ c, 0 ≤ (stored c).toInt)
    ∧ ((stored .maximumLength).toInt = 0
      ∨ (stored .minimumLength).toInt ≤ (stored .maximumLength).toInt)
  refused : ∀ e, result = .error e → e.code? = some .profileConstruction
    ∧ ∃ fault, firstFault? stored = some fault ∧ e = .ofProfile id fault

section stored

variable {store : Store} {r : Reader} {id : String} {stored : Count → Int64}
variable {E : ConfigError → Prop}
variable (named : r.profile = some id)
  (holds : ∀ c : Count, store.answer (.value c.setting (some id)) = .number (stored c))
  (refused : ∀ f, firstFault? stored = some f → E (.ofProfile id f))

include named holds refused

/-- Where the conditions before it are met, a count is read as it is stored, and meets its condition
too, or is refused for being negative. -/
lemma meets_count (c : Count) {before after : List Condition}
    (split : Condition.all = before ++ .natural c :: after)
    (met : ∀ y ∈ before, y.fault? stored = none) :
    Meets store
      (fun k : Nat => (∀ y ∈ before ++ [.natural c], y.fault? stored = none)
        ∧ (k : Int) = (stored c).toInt) E
      (r.count c.setting) := by
  have carried : r.profileId = id := Reader.profileId_of_named named
  have number := Reader.result_number named c.isProfiled_setting (holds c)
  refine .bind_of_ok number <| .ite (fun negative => ?_) fun natural => .pure ⟨?_, by omega⟩
  · exact r.meets_fault _ (carried ▸ refused _ (firstFault?_eq_some split met (if_pos negative)))
  · have own : Condition.fault? stored (.natural c) = none := if_neg natural
    simpa [or_imp, forall_and, own] using met

/-- A policy whose counts are stored has the stored counts if nothing is wrong with them, and is
refused for what is found wrong first. -/
lemma meets_stored (reads : r.FailsOnly store E) (locale : Locale) :
    Meets store
      (fun p => firstFault? stored = none ∧ ∀ c : Count, (c.of p : Int) = (stored c).toInt) E
      (PasswordPolicy.read r locale) := by
  have carried : r.profileId = id := Reader.profileId_of_named named
  have start : ∀ y ∈ ([] : List Condition), y.fault? stored = none := by simp
  -- every count extends the list of conditions that are met
  refine (meets_count named holds refused .minimumLength rfl start).bind ?_
  rintro minimum ⟨met, hmin⟩
  refine (meets_count named holds refused .maximumLength rfl met).bind ?_
  rintro maximum ⟨met, hmax⟩
  refine .ite (fun crossed => ?_) fun inOrder => ?_
  · have found : Condition.fault? stored .lengths = some (.lengthOrder minimum maximum) := by
      rw [Condition.fault?, if_pos (by omega), ← hmin, ← hmax]
      rfl
    exact r.meets_fault _ (carried ▸ refused _ (firstFault?_eq_some rfl met found))
  have order : Condition.fault? stored .lengths = none := if_neg (by omega)
  have met : ∀ y ∈ [.natural .minimumLength, .natural .maximumLength, .lengths],
      Condition.fault? stored y = none := by simpa [order] using met
  refine (reads _ _ rfl (by decide)).bind fun _ _ => ?_
  refine (meets_count named holds refused .minimumUppercase rfl met).bind ?_
  rintro uppercase ⟨met, hupper⟩
  refine (meets_count named holds refused .minimumLowercase rfl met).bind ?_
  rintro lowercase ⟨met, hlower⟩
  refine (meets_count named holds refused .minimumNumeric rfl met).bind ?_
  rintro numeric ⟨met, hnumeric⟩
  refine (meets_count named holds refused .minimumSpecial rfl met).bind ?_
  rintro special ⟨met, hspecial⟩
  refine (reads _ _ rfl (by decide)).bind fun _ _ => (reads _ _ rfl (.head _)).bind fun _ _ =>
    .pure ⟨List.findSome?_eq_none_iff.mpr met, fun c => ?_⟩
  cases c <;> assumption

omit refused

/-- Whatever else is stored, a policy has the stored counts, and a negative one is not read. -/
lemma countsKept (locale : Locale) :
    CountsKept stored ((PasswordPolicy.read r locale).result store) := by
  have contract := meets_stored (E := CodeIn [.profileConstruction]) named holds
    (fun f _ => codeIn_ofProfile (by decide) id f) (r.failsOnly_codeIn store _) locale
  refine ⟨fun p done => (contract.yields done).2, fun c negative => ?_⟩
  have impossible : Meets store (fun _ => False) (CodeIn [.profileConstruction])
      (PasswordPolicy.read r locale) := by
    refine contract.mono (fun p kept => ?_) fun _ coded => coded
    have natural := (firstFault?_eq_none_iff.mp kept.1).1 c
    omega
  exact impossible.exists_error

/-- Where nothing else can fail, the stored counts alone decide whether there is a policy. -/
lemma decided (reads : r.FailsOnly store fun _ => False) (locale : Locale) :
    Decided id stored ((PasswordPolicy.read r locale).result store) := by
  have contract := meets_stored
    (E := fun e => ∃ f, firstFault? stored = some f ∧ e = .ofProfile id f) named holds
    (fun f found => ⟨f, found, rfl⟩) (reads.mono fun _ failed => failed.elim) locale
  refine ⟨countsKept named holds locale, ?_, fun e failed => ?_⟩
  · rw [← firstFault?_eq_none_iff]
    constructor
    · rintro ⟨p, done⟩
      exact (contract.yields done).1
    · intro met
      -- no condition fails, so neither does the read: an error would name one
      cases comes : (PasswordPolicy.read r locale).result store with
      | ok p => exact ⟨p, rfl⟩
      | error e =>
          obtain ⟨f, found, -⟩ := contract.fails comes
          rw [met] at found
          cases found
  · obtain ⟨f, found, rfl⟩ := contract.fails failed
    exact ⟨rfl, f, found, rfl⟩

end stored

end PasswordPolicy

/-! ### Mail servers -/

namespace EmailServer

/-- What comes of a stored mail port: a server listens on it; where it is no port the server is
refused for it, and where it is one the server is refused at most for having no address, or for a
setting that cannot be read at all. -/
structure PortKept (id : String) (n : Int64) (result : Except ConfigError EmailServer) : Prop where
  exact : ∀ p, result = .ok p → (p.portNumber : Int) = n.toInt
  outside : n.toInt < 1 ∨ 65535 < n.toInt → result = .error (.ofProfile id (.badPortNumber n.toInt))
  inside : 1 ≤ n.toInt ∧ n.toInt ≤ 65535 → ∀ e, result = .error e →
    e = .ofProfile id (.missing Schema.emailServerAddress.key) ∨ e.CodeIn []

variable {store : Store} {r : Reader} {id : String} {n : Int64} {E : ConfigError → Prop}
variable (named : r.profile = some id)
  (holds : store.answer (.value Schema.emailServerPort (some id)) = .number n)

include named holds

/-- A number that is no port is refused. -/
lemma result_read_of_outside (outside : n.toInt < 1 ∨ 65535 < n.toInt) :
    (EmailServer.read r).result store = .error (.ofProfile id (.badPortNumber n.toInt)) := by
  have carried : r.profileId = id := Reader.profileId_of_named named
  have refused : Meets store (fun _ => False) (· = .ofProfile id (.badPortNumber n.toInt))
      (EmailServer.read r) := by
    refine .bind_of_ok (Reader.result_number named rfl holds) ?_
    exact .ite (fun _ => r.meets_fault _ (by rw [carried])) fun inside => absurd outside inside
  obtain ⟨e, failed, rfl⟩ := refused.exists_error
  exact failed

/-- A port is read as it is stored. -/
lemma meets_stored (inside : 1 ≤ n.toInt ∧ n.toInt ≤ 65535) (reads : r.FailsOnly store E)
    (missing : E (.ofProfile id (.missing Schema.emailServerAddress.key))) :
    Meets store (fun p => (p.portNumber : Int) = n.toInt) E (EmailServer.read r) := by
  have carried : r.profileId = id := Reader.profileId_of_named named
  have address : Meets store (fun _ => True) E (r.requiredText Schema.emailServerAddress) :=
    (reads _ _ rfl (by decide)).bind fun _ _ =>
      .ite (fun _ => r.meets_fault _ (carried ▸ missing)) fun _ => .pure trivial
  refine .bind_of_ok (Reader.result_number named rfl holds) ?_
  refine .ite (fun outside => by omega) fun _ => address.bind fun _ _ => ?_
  exact (reads _ _ rfl (by decide)).bind fun _ _ => (reads _ _ rfl (by decide)).bind fun _ _ =>
    (reads _ _ rfl (by decide)).bind fun _ _ => .pure (Int.toNat_of_nonneg (by omega))

lemma portKept : PortKept id n ((EmailServer.read r).result store) := by
  have read : 1 ≤ n.toInt ∧ n.toInt ≤ 65535 →
      Meets store (fun p => (p.portNumber : Int) = n.toInt)
        (fun e => e = .ofProfile id (.missing Schema.emailServerAddress.key) ∨ e.CodeIn [])
        (EmailServer.read r) := fun inside =>
    meets_stored named holds inside ((r.failsOnly_codeIn store []).mono fun _ => .inr) (.inl rfl)
  refine ⟨fun p done => ?_, result_read_of_outside named holds, fun inside e => (read inside).fails⟩
  by_cases inside : 1 ≤ n.toInt ∧ n.toInt ≤ 65535
  · exact (read inside).yields done
  · rw [result_read_of_outside named holds (by omega)] at done
    cases done

end EmailServer

/-! ### People search -/

namespace PeopleSearch

/-- What comes of a stored limit: a search has it, or none where it is below zero, and is never
refused for it. -/
structure LimitKept (n : Int64) (result : Except ConfigError PeopleSearch) : Prop where
  exact : ∀ p, result = .ok p → 0 ≤ n.toInt → (p.limit : Int) = n.toInt
  negative : ∀ p, result = .ok p → n.toInt < 0 → p.limit = 0
  unrefused : ∀ e, result = .error e → e.CodeIn []

variable {store : Store} {r : Reader} {id : String} {n : Int64} {E : ConfigError → Prop}
variable (named : r.profile = some id)
  (holds : store.answer (.value Schema.peopleSearchLimit (some id)) = .number n)

include named holds

/-- A limit is read as it is stored, or as zero. -/
lemma meets_stored (reads : r.FailsOnly store E) (isPublic : Bool) :
    Meets store (fun p => p.limit = n.toInt.toNat) E (PeopleSearch.read isPublic r) := by
  refine .bind_of_ok (Reader.result_number named rfl holds) ?_
  refine .ite (fun _ => ?_) fun _ => (reads _ _ rfl (by decide)).bind fun _ _ => ?_
  -- whom a public search applies to is not read
  · have nobody : Meets store (fun _ => True) E (pure [] : Read (List Permission)) := .pure trivial
    exact nobody.bind fun _ _ => (reads _ _ rfl (by decide)).bind fun _ _ =>
      (reads _ _ rfl (by decide)).bind fun _ _ => .pure rfl
  · exact (reads _ _ rfl (by decide)).bind fun _ _ => (reads _ _ rfl (by decide)).bind fun _ _ =>
      .pure rfl

lemma limitKept (isPublic : Bool) : LimitKept n ((PeopleSearch.read isPublic r).result store) := by
  have contract := meets_stored named holds (r.failsOnly_codeIn store []) isPublic
  refine ⟨fun p done natural => ?_, fun p done negative => ?_, fun e => contract.fails⟩
  · rw [contract.yields done]
    exact Int.toNat_of_nonneg natural
  · rw [contract.yields done]
    omega

end PeopleSearch

/-! ### The numbers of a tenant -/

namespace Tenant

open PasswordPolicy (Count)

/-- No number that is stored for a profile is read as another one. Over every store, whatever else
it holds: a password policy has its six counts as they are stored, and there is none if one of them
is negative; a mail server listens on the port that is stored, and is refused for any number outside
of 1 to 65535; and a search for people has the limit that is stored, or zero where it is
negative. Over every snapshot that is built, whatever was asked before: a policy is handed out
exactly if no count is negative and the maximum length is zero or not below the minimum, and is
otherwise refused for what is found wrong first; and there is always a search for people. -/
theorem numbers_kept (t : Tenant) (id : String) :
    (∀ (store : Store) (stored : Count → Int64) (locale : Locale),
        (∀ c : Count, store.answer (.value c.setting (some id)) = .number (stored c)) →
        PasswordPolicy.CountsKept stored
          ((PasswordPolicy.read (t.reader (some id)) locale).result store))
      ∧ (∀ (store : Store) (n : Int64),
          store.answer (.value Schema.emailServerPort (some id)) = .number n →
          EmailServer.PortKept id n ((EmailServer.read (t.reader (some id))).result store))
      ∧ (∀ (store : Store) (n : Int64) (isPublic : Bool),
          store.answer (.value Schema.peopleSearchLimit (some id)) = .number n →
          PeopleSearch.LimitKept n
            ((PeopleSearch.read isPublic (t.reader (some id))).result store))
      ∧ ∀ (steps : List Snapshot.Step) (s : Snapshot), Snapshot.build steps = .ok s →
          (∀ (before : List Request) (given : String) (locale : Locale),
            resolveProfile .passwordPolicy given (s.profileIds .passwordPolicy) = .ok id →
            ∃ stored : Count → Int64, (∀ c, s.value c.setting (some id) = .number (stored c))
              ∧ PasswordPolicy.Decided id stored (t.policyAfter s.store before given locale))
            ∧ ∀ isPublic, ∃ p,
              (PeopleSearch.read isPublic (t.reader (some id))).result s.store = .ok p := by
  refine ⟨fun store stored locale holds => PasswordPolicy.countsKept rfl holds locale,
    fun store n holds => EmailServer.portKept rfl holds,
    fun store n isPublic holds => PeopleSearch.limitKept rfl holds isPublic,
    fun steps s built => ?_⟩
  -- what a snapshot answers with fits its setting, so that no read fails for what it holds
  have fits := Snapshot.Admitted.of_build built
  have reads : (t.reader (some id)).FailsOnly s.store fun _ => False :=
    Reader.failsOnly_stored fits rfl
  refine ⟨fun before given locale resolved => ?_, fun isPublic => ?_⟩
  · choose stored holds using fun c : Count =>
      Snapshot.exists_number fits c.shape_setting (some id)
    refine ⟨stored, holds, ?_⟩
    have answered : t.policyAfter s.store before given locale
        = (PasswordPolicy.read (t.reader (some id)) locale).result s.store := by
      rw [t.policyAfter_eq]
      show resolveProfile _ _ (s.profileIds .passwordPolicy) >>= _ = _
      rw [resolved]
      rfl
    rw [answered]
    exact PasswordPolicy.decided rfl holds reads locale
  · obtain ⟨n, holds⟩ :=
      Snapshot.exists_number fits (x := Schema.peopleSearchLimit) rfl (some id)
    obtain ⟨p, done, -⟩ := (PeopleSearch.meets_stored rfl holds reads isPublic).exists_ok
    exact ⟨p, done⟩

/-- The greatest number there is as the minimum length, where zero is the maximum; the least port
that is too large; and the least number there is as the limit of a search. -/
theorem numbers_kept_at_bounds :
    let steps : List Snapshot.Step :=
      [.profileValue Schema.passwordPolicyMinimumLength "main" (.number 9223372036854775807),
        .profileValue Schema.passwordPolicyMaximumLength "main" (.number 0),
        .profileValue Schema.emailServerPort "main" (.number 65536),
        .profileValue Schema.peopleSearchLimit "main" (.number (-9223372036854775808))]
    let s := steps.foldl Snapshot.apply .empty
    let t : Tenant := ⟨"example.org", .default, fun _ _ => 0⟩
    Snapshot.build steps = .ok s
      ∧ resolveProfile .passwordPolicy "" (s.profileIds .passwordPolicy) = .ok "main"
      ∧ (∃ p, t.policyAfter s.store [.digest] "" .root = .ok p
        ∧ p.minimumLength = 9223372036854775807 ∧ p.maximumLength = 0)
      ∧ (EmailServer.read (t.reader (some "main"))).result s.store
        = .error (.ofProfile "main" (.badPortNumber 65536))
      ∧ ∃ p, (PeopleSearch.read false (t.reader (some "main"))).result s.store = .ok p
        ∧ p.limit = 0 := by
  intro steps s t
  have built : Snapshot.build steps = .ok s := rfl
  have resolved : resolveProfile .passwordPolicy "" (s.profileIds .passwordPolicy) = .ok "main" :=
    rfl
  obtain ⟨-, servers, searches, snapshots⟩ := t.numbers_kept "main"
  obtain ⟨policies, searched⟩ := snapshots steps s built
  obtain ⟨stored, holds, decided⟩ := policies [.digest] "" .root resolved
  have least : stored .minimumLength = 9223372036854775807 :=
    (StoredValue.number.inj (holds .minimumLength)).symm
  have greatest : stored .maximumLength = 0 :=
    (StoredValue.number.inj (holds .maximumLength)).symm
  have port := servers s.store 65536 rfl
  have limit := searches s.store (-9223372036854775808) false rfl
  refine ⟨built, resolved, ?_, port.outside (.inr (by decide)), ?_⟩
  -- the counts that are not stored are zero by default
  · have zero {c : Count} (h : StoredValue.number 0 = .number (stored c)) :
        0 ≤ (stored c).toInt := by
      rw [← StoredValue.number.inj h]
      decide
    have natural : ∀ c, 0 ≤ (stored c).toInt := by
      intro c
      cases c with
      | minimumLength => rw [least]; decide
      | maximumLength => exact zero (holds .maximumLength)
      | minimumUppercase => exact zero (holds .minimumUppercase)
      | minimumLowercase => exact zero (holds .minimumLowercase)
      | minimumNumeric => exact zero (holds .minimumNumeric)
      | minimumSpecial => exact zero (holds .minimumSpecial)
    obtain ⟨p, done⟩ := decided.accepted_iff.mpr ⟨natural, .inl (by rw [greatest]; rfl)⟩
    -- what was stored is carried over as it is, up to the greatest number
    have low := decided.exact p done .minimumLength
    have high := decided.exact p done .maximumLength
    rw [least] at low
    rw [greatest] at high
    exact ⟨p, done, Int.ofNat.inj low, Int.ofNat.inj high⟩
  · obtain ⟨p, done⟩ := searched false
    exact ⟨p, done, limit.negative p done (by decide)⟩

end Tenant

end TenantSettings

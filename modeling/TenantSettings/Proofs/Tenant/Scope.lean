import TenantSettings.Proofs.Reader.Scope
import TenantSettings.Proofs.Store.Modified
import TenantSettings.Proofs.Tenant.Memory

/-!
# The scope of whole runs

A store is asked about a setting under a profile exactly if the setting has profiles. Readers see to
this for every setting that they read. The digest does not go through a reader: it asks for the
setting of the schema that a record names, so it stays in scope as far as no other setting of the
same key is stored.

* `Question.InScope`: the questions that respect the kind of their setting.
* `Call.AsksOnly`: a bound on the questions of a call, closed under the ways to put calls together.
* `Snapshot.KindsAgree`: no record names a setting of the schema of another kind;
  `Snapshot.kindsAgree_iff`: this is what the digest needs, and
  `Snapshot.kindsAgree_of_ofSchema`: a snapshot of settings of the schema has it.
* `Tenant.asksOnly_call`: the questions of one request.
* `Tenant.consultations`: the questions of a run; `Tenant.consultations_inScope` is the main result,
  `Tenant.consultations_out_of_scope` a run over records of another kind.
-/

namespace TenantSettings

/-! ### Questions in scope -/

/-- A question about a setting names a profile exactly if the setting has profiles. -/
def Question.InScope : Question → Prop
  | .value x profile | .isDefault x profile => profile.isSome = x.isProfiled
  | _ => True

instance : (q : Question) → Decidable q.InScope
  | .value x profile | .isDefault x profile =>
    inferInstanceAs (Decidable (profile.isSome = x.isProfiled))
  | .bundle _ _ | .modified | .templates | .profileIds _ => inferInstanceAs (Decidable True)

namespace Reader

open Read

variable (r : Reader)

/-- A reader looks a setting up under a profile exactly if the setting has profiles. -/
lemma isSome_of_scope {x : Setting} {profile : Option String} (scope : r.scope x = .ok profile) :
    profile.isSome = x.isProfiled := by
  unfold Reader.scope at scope
  -- a scope that was found is no refusal, which leaves one case each
  cases profiled : x.isProfiled with
  | false =>
      rw [profiled] at scope
      obtain rfl : none = profile := Except.ok.inj scope
      rfl
  | true =>
      rw [profiled] at scope
      cases named : r.profile with
      | none =>
          rw [named] at scope
          cases scope
      | some id =>
          rw [named] at scope
          obtain rfl : some id = profile := Except.ok.inj scope
          rfl

lemma inScope_of_sees {q : Question} (seen : r.Sees q) : q.InScope := by
  cases seen with
  | value scope => exact r.isSome_of_scope scope
  | isDefault scope => exact r.isSome_of_scope scope

/-- Whatever is read stays in scope if it stays in the scope of its reader. -/
lemma inScope_of_asksOnly {α : Type} {x : Read α} (bound : AsksOnly r.Sees x) :
    AsksOnly Question.InScope x :=
  bound.mono fun _ seen => r.inScope_of_sees seen

lemma inScope_read (x : Setting) (reading : Reading) :
    AsksOnly Question.InScope (r.read x reading) :=
  r.inScope_of_asksOnly (r.asksOnly_read x reading)

/-- Outside of all profiles, a setting that has profiles is refused before the store is asked. -/
lemma scope_of_plain {x : Setting} (profiled : x.isProfiled = true)
    (plain : r.profile = none) : r.scope x = .error (.profileNeeded x.key) := by
  rw [Reader.scope, profiled, plain]
  rfl

end Reader

/-! ### Bounds on the questions of a call -/

namespace Call

open Memory

variable {α β : Type} {store : Store} {P : Question → Prop}

/-- Over a store and whatever is kept, the call only asks questions of one kind. -/
def AsksOnly (store : Store) (P : Question → Prop) (x : Call α) : Prop :=
  ∀ m : Memory, ∀ q ∈ (x.carryOut store m).asked, P q

namespace AsksOnly

lemma pure (a : α) : AsksOnly store P (Pure.pure a : Call α) := by
  intro m q asked
  cases asked

lemma ofRead {x : Read α} (hx : ∀ q ∈ (x.carryOut store).asked, P q) :
    AsksOnly store P (Call.ofRead x) := by
  intro m q asked
  rw [carryOut_ofRead] at asked
  exact hx q asked

lemma tell (e : Event) : AsksOnly store P (Call.tell e) := ofRead (Read.AsksOnly.tell e store)

lemma fail (e : ConfigError) : AsksOnly store P (Call.fail e : Call α) :=
  ofRead (Read.AsksOnly.fail e store)

/-- One call after another. -/
lemma bind {x : Call α} {f : α → Call β} (hx : AsksOnly store P x)
    (hf : ∀ a, AsksOnly store P (f a)) : AsksOnly store P (x >>= f) := by
  intro m q asked
  have first := hx m q
  rw [carryOut_bind] at asked
  revert first asked
  rcases x.carryOut store m with ⟨⟨value, m'⟩, before, events⟩
  intro asked first
  cases value with
  | error e => exact first asked
  | ok a =>
      rcases List.mem_append.mp asked with early | late
      · exact first early
      · exact hf a m' q late

lemma ite {c : Prop} [Decidable c] {x y : Call α} (hx : AsksOnly store P x)
    (hy : AsksOnly store P y) : AsksOnly store P (if c then x else y) := by
  split
  · exact hx
  · exact hy

/-- A call whose value is kept asks at most what computing it asks. -/
lemma lookUp {x : Derived} {call init : Call x.Value}
    (look : ∀ m, call.carryOut store m = m.lookUp x (init.carryOut store m))
    (hinit : AsksOnly store P init) : AsksOnly store P call := by
  intro m q asked
  rw [look] at asked
  cases hit : m.kept? x with
  | some v =>
      rw [lookUp_eq_of_kept hit] at asked
      cases asked
  | none =>
      rw [lookUp_eq_of_not_kept hit] at asked
      exact hinit m q asked

end AsksOnly

end Call

/-! ### What the digest asks -/

namespace Inquiry

variable {α β : Type} (store : Store)

@[simp] lemma asked_pure (a : α) : ((pure a : Inquiry α).run store).asked = [] := rfl

@[simp] lemma asked_bind (x : Inquiry α) (f : α → Inquiry β) :
    ((x >>= f).run store).asked
      = (x.run store).asked ++ ((f (x.run store).value).run store).asked := by
  rw [run_bind]

/-- Along a list, everything is asked that is asked for its members. -/
lemma asked_mapM (f : α → Inquiry β) (l : List α) :
    ((l.mapM f).run store).asked = l.flatMap fun a => ((f a).run store).asked := by
  induction l with
  | nil => rfl
  | cons a rest ih =>
      rw [List.mapM_cons, asked_bind, asked_bind, ih, asked_pure, List.append_nil,
        List.flatMap_cons]

end Inquiry

namespace ItemKey

variable (store : Store)

/-- The digest asks for the setting that a record names. -/
lemma asked_content_of_setting? {k : ItemKey} {x : Setting} (named : k.setting? = some x) :
    (k.content.run store).asked = [.value x k.profile] := by
  obtain ⟨kind, id, profile⟩ := k
  cases kind with
  | setting => rw [content, named]; rfl
  | _ => cases named

/-- Of other records it asks nothing about settings. -/
lemma inScope_content_of_setting? {k : ItemKey} (unnamed : k.setting? = none) :
    ∀ q ∈ (k.content.run store).asked, q.InScope := by
  intro q asked
  obtain ⟨kind, id, profile⟩ := k
  cases kind with
  | setting =>
      rw [content, unnamed] at asked
      cases asked
  | localeBundle =>
      unfold content at asked
      dsimp only at asked
      split at asked
      · rw [List.mem_singleton.mp asked]
        trivial
      · cases asked
  | property => cases asked

end ItemKey

/-- The digest asks for the records, and then about each. -/
lemma Tenant.asked_computeDigest (store : Store) :
    (computeDigest.carryOut store).asked
      = .modified :: (store.answer .modified).flatMap fun k => (k.content.run store).asked := by
  have record : ∀ k : ItemKey, (k.covered.run store).asked = (k.content.run store).asked := by
    intro k
    rw [ItemKey.covered, Inquiry.asked_bind, Inquiry.asked_pure, List.append_nil]
  have text : (coveredText.run store).asked
      = .modified :: (store.answer .modified).flatMap fun k => (k.content.run store).asked := by
    refine congrArg (Question.modified :: ·) ?_
    rw [Inquiry.asked_bind, Inquiry.asked_mapM, Inquiry.asked_pure, List.append_nil]
    simp only [record]
  rw [Read.carryOut, computeDigest, ExceptT.run_lift, map_eq_pure_bind, Inquiry.asked_bind,
    Inquiry.asked_bind, Inquiry.asked_pure, Inquiry.asked_pure, text, List.append_nil,
    List.append_nil]

namespace Snapshot

variable {steps : List Step} {s : Snapshot}

/-- Wherever a changed setting has the key of a setting of the schema, both have profiles or both
have none. -/
def KindsAgree (s : Snapshot) : Prop :=
  ∀ k ∈ s.changed, ∀ x, Schema.byKey? k.1.key = some x → x.isProfiled = k.1.isProfiled

/-- Of settings of the schema only, each has its key for itself. -/
lemma kindsAgree_of_ofSchema (ofSchema : ∀ step ∈ steps, step.OfSchema)
    (built : build steps = .ok s) : s.KindsAgree := by
  intro k mem x found
  have known : k.1 ∈ Schema.all := mem_all_of_mem_changed ofSchema built mem
  rw [Schema.byKey?_key known] at found
  rw [Option.some.inj found]

/-- A record that names a setting is the record of a changed one. -/
lemma exists_changed_of_setting? {k : ItemKey} (record : k ∈ s.modified) {x : Setting}
    (named : k.setting? = some x) : ∃ c ∈ s.changed, ItemKey.ofSetting c.1 c.2 = k := by
  rw [modified_eq] at record
  rcases List.mem_append.mp record with setting | other
  · exact List.mem_map.mp setting
  · rcases List.mem_append.mp other with bundle | property
    · obtain ⟨_, -, rfl⟩ := List.mem_map.mp bundle
      cases named
    · obtain ⟨_, -, rfl⟩ := List.mem_map.mp property
      cases named

/-- Over a snapshot that is built, the digest asks in scope exactly if kinds agree. -/
theorem kindsAgree_iff (built : build steps = .ok s) :
    s.KindsAgree ↔ ∀ q ∈ (Tenant.computeDigest.carryOut s.store).asked, q.InScope := by
  rw [Tenant.asked_computeDigest]
  constructor
  · intro agree q asked
    rcases List.mem_cons.mp asked with rfl | later
    · trivial
    -- each question after the list is about one record; records of no setting ask no value
    obtain ⟨k, record, about⟩ := List.mem_flatMap.mp later
    cases named : k.setting? with
    | none => exact k.inScope_content_of_setting? s.store named q about
    | some x =>
        rw [k.asked_content_of_setting? s.store named, List.mem_singleton] at about
        subst about
        obtain ⟨c, mem, rfl⟩ := exists_changed_of_setting? record named
        have scope : c.2.isSome = c.1.isProfiled := isSome_of_mem_changed built mem
        exact scope.trans (agree c mem x named).symm
  · intro inScope k mem x found
    -- conversely a changed record is listed, so that its question is one that is asked
    have record : ItemKey.ofSetting k.1 k.2 ∈ s.modified := by
      rw [modified_eq]
      exact List.mem_append_left _ (List.mem_map_of_mem mem)
    have asked : .value x k.2 ∈ ((ItemKey.ofSetting k.1 k.2).content.run s.store).asked := by
      rw [ItemKey.asked_content_of_setting? s.store
        ((ItemKey.setting?_ofSetting k.1 k.2).trans found)]
      exact List.mem_cons_self
    have scope : k.2.isSome = x.isProfiled :=
      inScope _ (List.mem_cons_of_mem _ (List.mem_flatMap.mpr ⟨_, record, asked⟩))
    rw [← scope, isSome_of_mem_changed built mem]

end Snapshot

/-! ### The questions of a tenant -/

namespace Tenant

open Call

variable (t : Tenant) (store : Store)

/-- The profiles of a definition ask which ids there are, and what each of them asks. -/
lemma asksOnly_buildProfiles {P : Question → Prop} {d : Definition}
    (ids : P (.profileIds d.category))
    (one : ∀ id, Read.AsksOnly P (d.build (t.reader (some id)))) :
    Read.AsksOnly P (t.buildProfiles d) := by
  unfold buildProfiles
  cases d.kind? with
  | none => exact .pure _
  | some k =>
      exact .bind (.ask ids) fun listed =>
        .bind (.mapM (fun id => (one id).tellError _ |>.bind fun _ => .pure _) listed) fun _ =>
          .bind (.tell _) fun _ => .pure _

lemma inScope_buildProfiles (d : Definition) :
    Read.AsksOnly Question.InScope (t.buildProfiles d) :=
  t.asksOnly_buildProfiles trivial fun id =>
    (t.reader (some id)).inScope_of_asksOnly (Definition.asksOnly_build _ d)

lemma asksOnly_profiles (d : Definition) :
    AsksOnly store Question.InScope (t.profiles d) :=
  .lookUp (x := .profiles d) (fun m => t.carryOut_profiles store m d)
    (.ofRead (t.inScope_buildProfiles d store))

lemma asksOnly_profilesAs (k : ProfileKind) (d : Definition) :
    AsksOnly store Question.InScope (t.profilesAs k d) :=
  (t.asksOnly_profiles store d).bind fun _ => .pure _

lemma asksOnly_directories : AsksOnly store Question.InScope t.directories :=
  .lookUp (x := .directories) (t.carryOut_directories store) <|
    (t.asksOnly_profilesAs store .directory .ldap).bind fun _ =>
      .ite (.bind (.tell _) fun _ => .pure _) (.pure _)

lemma asksOnly_defaultDirectory : AsksOnly store Question.InScope t.defaultDirectory := by
  refine (t.asksOnly_directories store).bind fun enabled => ?_
  cases enabled.values.head? with
  | none => exact .fail _
  | some directory => exact .pure _

lemma asksOnly_publicPeopleSearch : AsksOnly store Question.InScope t.publicPeopleSearch := by
  refine .bind (.ofRead (t.plain.inScope_read _ .flag store)) fun isOpen => .ite (.pure _) ?_
  exact .bind (.ofRead (t.plain.inScope_read _ .text store)) fun _ =>
    (t.asksOnly_profilesAs store .peopleSearch .peopleSearchPublic).bind fun _ => .pure _

/-- Whose profile is meant is asked for, and which id that is. -/
lemma asksOnly_passwordPolicy (profile : String) (locale : Locale) :
    AsksOnly store Question.InScope (t.passwordPolicy profile locale) := by
  refine .bind (.ofRead (Read.AsksOnly.ask trivial store)) fun _ =>
    .bind (.ofRead (Read.AsksOnly.ofExcept _ store)) fun id => ?_
  have build : Read.AsksOnly Question.InScope (t.buildPolicy id locale) :=
    .bind ((t.reader (some id)).inScope_of_asksOnly (PasswordPolicy.asksOnly_read _ locale))
      fun _ => .bind (.tell _) fun _ => .pure _
  exact .lookUp (x := .policy id locale) (fun m => t.carryOut_keptPolicy store m id locale)
    (.ofRead (build store))

lemma asksOnly_challengeProfile (profile : String) (locale : Locale) :
    AsksOnly store Question.InScope (t.challengeProfile profile locale) :=
  .bind (.ofRead (Read.AsksOnly.ask trivial store)) fun _ =>
    .bind (.ofRead (Read.AsksOnly.ofExcept _ store)) fun id =>
      .ofRead ((t.reader (some id)).inScope_of_asksOnly
        (ChallengeProfile.asksOnly_read _ locale) store)

lemma asksOnly_securityKey : AsksOnly store Question.InScope t.securityKey := by
  refine .lookUp (x := .key) (t.carryOut_securityKey store) ?_
  refine .bind (.ofRead (t.plain.inScope_read _ .password store)) fun stored => ?_
  cases stored.filter (!·.isEmpty) with
  | none =>
      have text : AsksOnly store Question.InScope t.keyText :=
        .lookUp (x := .keyText) (t.carryOut_keyText store) fun _ _ asked => by cases asked
      exact .bind (.tell _) fun _ => text.bind fun _ => .pure _
  | some secret => exact .ite (.fail _) (.pure _)

lemma inScope_storageLocations (x : Setting) :
    Read.AsksOnly Question.InScope (t.storageLocations x) := by
  refine .bind (t.plain.inScope_read x .text) fun text =>
    .bind (.forIn (fun word _ => ?_) _ _) fun _ => .pure _
  cases word with
  | error unknown => exact .bind (.tell _) fun _ => .pure _
  | ok method => exact .pure _

lemma inScope_tokenStorage : Read.AsksOnly Question.InScope t.tokenStorage := by
  refine .bind (t.plain.inScope_read _ .text) fun word => ?_
  cases (Literal.ofText? word : Option TokenStorage) with
  | none => exact .bind (.tell _) fun _ => .pure _
  | some method => exact .pure _

lemma inScope_hasDatabase : Read.AsksOnly Question.InScope t.hasDatabase :=
  .bind (t.plain.inScope_read _ .text) fun _ => .ite (.pure _) <|
    .bind (t.plain.inScope_read _ .text) fun _ => .ite (.pure _) <|
    .bind (t.plain.inScope_read _ .text) fun _ => .ite (.pure _) <|
    .bind (t.plain.inScope_read _ .password) fun _ => .pure _

lemma inScope_knownLocales : Read.AsksOnly Question.InScope t.knownLocales :=
  .bind (t.plain.inScope_read _ .texts) fun _ => .pure _

/-- Every request asks in scope, the digest as far as it does. -/
lemma asksOnly_call {r : Request}
    (digest : r = .digest → ∀ q ∈ (computeDigest.carryOut store).asked, q.InScope) :
    AsksOnly store Question.InScope (r.call t) := by
  -- a reader asks in scope by itself, and the digest asks for what is listed
  cases r with
  | read profile x reading => exact .ofRead ((t.reader profile).inScope_read x reading store)
  | raw profile x =>
      exact .ofRead
        ((t.reader profile).inScope_of_asksOnly ((t.reader profile).asksOnly_raw x) store)
  | isDefault profile x =>
      exact .ofRead
        ((t.reader profile).inScope_of_asksOnly ((t.reader profile).asksOnly_isDefault x) store)
  | profiles d => exact t.asksOnly_profiles store d
  | profilesOf k => exact t.asksOnly_profilesAs store k (.ofKind k)
  | buildProfile profile d =>
      exact .ofRead
        ((t.reader profile).inScope_of_asksOnly (Definition.asksOnly_build _ d) store)
  | directories => exact t.asksOnly_directories store
  | defaultDirectory => exact t.asksOnly_defaultDirectory store
  | publicPeopleSearch => exact t.asksOnly_publicPeopleSearch store
  | profileIds c => exact .ofRead (Read.AsksOnly.ask trivial store)
  | passwordPolicy profile locale => exact t.asksOnly_passwordPolicy store profile locale
  | challengeProfile profile locale => exact t.asksOnly_challengeProfile store profile locale
  | securityKey => exact t.asksOnly_securityKey store
  | localizedBundle b key =>
      exact .lookUp (x := .bundle b key) (fun m => t.carryOut_localizedBundle store m b key)
        (.ofRead (Read.AsksOnly.bind (.ask trivial) (fun _ => .pure _) store))
  | digest => exact .lookUp (x := .digest) (t.carryOut_digest store) (.ofRead (digest rfl))
  | storageLocations x => exact .ofRead (t.inScope_storageLocations x store)
  | tokenStorage => exact .ofRead (t.inScope_tokenStorage store)
  | logLevel => exact .ofRead (t.plain.inScope_read _ (.oneOf LogLevel) store)
  | certificateMatching =>
      exact .ofRead (Read.AsksOnly.bind (t.plain.inScope_read _ (.oneOf CertificateMatching))
        (fun _ => .pure _) store)
  | hasDatabase => exact .ofRead (t.inScope_hasDatabase store)
  | nonDefaultSettings =>
      exact .ofRead (Read.AsksOnly.bind (.ask trivial) (fun _ => .pure _) store)
  | modified => exact .ofRead (Read.AsksOnly.ask trivial store)
  | templates => exact .ofRead (Read.AsksOnly.ask trivial store)
  | knownLocales => exact .ofRead (t.inScope_knownLocales store)
  | flags => exact .ofRead (t.inScope_knownLocales.bind (fun _ => .pure _) store)

/-! ### Runs -/

/-- The questions that a run of requests puts to the store, in order. -/
def consultations (t : Tenant) (store : Store) (m : Memory) : List Request → List Question
  | [] => []
  | r :: rest =>
    let served := t.serve store m r
    served.asked ++ t.consultations store served.value.2 rest

/-- A run of requests asks in scope, whatever is kept at its start. -/
lemma inScope_of_mem_consultations {requests : List Request}
    (digest : .digest ∈ requests → ∀ q ∈ (computeDigest.carryOut store).asked, q.InScope)
    {m : Memory} : ∀ q ∈ t.consultations store m requests, q.InScope := by
  induction requests generalizing m with
  | nil =>
      intro q asked
      cases asked
  | cons r rest ih =>
      intro q asked
      rcases List.mem_append.mp asked with now | later
      · exact t.asksOnly_call store (fun same => digest (same ▸ List.mem_cons_self)) m q now
      · exact ih (fun mem => digest (List.mem_cons_of_mem r mem)) q later

/-- Outside of all profiles a setting that has profiles is refused, with nothing asked or kept. -/
lemma serve_of_profiled (m : Memory) {x : Setting} (profiled : x.isProfiled = true) :
    (∀ reading, t.serve store m (.read none x reading)
        = ⟨(.error (.profileNeeded x.key), m), [], []⟩)
      ∧ t.serve store m (.raw none x) = ⟨(.error (.profileNeeded x.key), m), [], []⟩
      ∧ t.serve store m (.isDefault none x) = ⟨(.error (.profileNeeded x.key), m), [], []⟩ := by
  have scope := (t.reader none).scope_of_plain profiled rfl
  refine ⟨fun reading => ?_, ?_, ?_⟩
  · rw [serve, Request.call, carryOut_ofRead, Reader.carryOut_read, scope]
  · rw [serve, Request.call, carryOut_ofRead, Reader.carryOut_raw, scope]
  · rw [serve, Request.call, carryOut_ofRead, Reader.isDefault, scope]
    rfl

/-- Over every snapshot that is built, every question that a run of requests puts to the store about
a setting names a profile exactly if the setting has profiles; if the run computes the digest, kinds
have to agree in the snapshot. And over every store, a setting that has profiles is refused outside
of all profiles, however it is read, with nothing asked. -/
theorem consultations_inScope {steps : List Snapshot.Step} {s : Snapshot}
    (built : Snapshot.build steps = .ok s) (requests : List Request)
    (agree : .digest ∈ requests → s.KindsAgree) :
    (∀ q ∈ t.consultations s.store .empty requests, q.InScope)
      ∧ ∀ (store : Store) (m : Memory) (x : Setting), x.isProfiled = true →
        (∀ reading, t.serve store m (.read none x reading)
            = ⟨(.error (.profileNeeded x.key), m), [], []⟩)
          ∧ t.serve store m (.raw none x) = ⟨(.error (.profileNeeded x.key), m), [], []⟩
          ∧ t.serve store m (.isDefault none x)
            = ⟨(.error (.profileNeeded x.key), m), [], []⟩ := by
  refine ⟨t.inScope_of_mem_consultations s.store fun mem => ?_, fun store m x profiled => ?_⟩
  · exact (Snapshot.kindsAgree_iff built).mp (agree mem)
  · exact t.serve_of_profiled store m profiled

/-- A run over settings of the schema, with profiles and without, that ends in the digest. -/
theorem consultations_inScope_of_schema :
    let steps : List Snapshot.Step :=
      [.value Schema.siteAddress (.text "https://id.example.org"),
        .profileValue Schema.ldapServerAddresses "west" (.texts ["ldaps://a"])]
    let s := steps.foldl Snapshot.apply .empty
    let t : Tenant := ⟨"example.org", .default, fun _ _ => 0⟩
    Snapshot.build steps = .ok s ∧ s.KindsAgree
      ∧ (∀ q ∈ t.consultations s.store .empty [.directories, .digest], q.InScope)
      ∧ Schema.ldapServerAddresses.isProfiled = true
      ∧ (t.serve s.store .empty (.read none Schema.ldapServerAddresses .texts)).asked = [] := by
  intro steps s t
  have address : Schema.siteAddress ∈ Schema.all := by decide
  have servers : Schema.ldapServerAddresses ∈ Schema.all := by decide
  have ofSchema : ∀ step ∈ steps, step.OfSchema := by
    simp [steps, Snapshot.Step.OfSchema, address, servers]
  have built : Snapshot.build steps = .ok s := rfl
  have agree := Snapshot.kindsAgree_of_ofSchema ofSchema built
  obtain ⟨inScope, refused⟩ :=
    t.consultations_inScope built [.directories, .digest] fun _ => agree
  have profiled : Schema.ldapServerAddresses.isProfiled = true := rfl
  refine ⟨built, agree, inScope, profiled, ?_⟩
  rw [(refused s.store .empty _ profiled).1 .texts]

/-- A setting without profiles whose key is that of the servers of a directory: for its record, the
digest asks for those servers outside of all profiles. -/
theorem consultations_out_of_scope :
    let x : Setting := ⟨"ldap.serverUrls", .text, .application, ""⟩
    let steps : List Snapshot.Step := [.value x (.text "ldaps://a")]
    let s := steps.foldl Snapshot.apply .empty
    let t : Tenant := ⟨"example.org", .default, fun _ _ => 0⟩
    Snapshot.build steps = .ok s
      ∧ ∃ q ∈ t.consultations s.store .empty [.modified, .digest],
        q = .value Schema.ldapServerAddresses none ∧ ¬ q.InScope := by
  intro x steps s t
  have built : Snapshot.build steps = .ok s := rfl
  refine ⟨built, _, ?_, rfl, ?_⟩
  · decide +kernel
  · decide

end Tenant

end TenantSettings

import TenantSettings.Proofs.Secrecy.Call

/-!
# Tenants keep secrets

Two tenants of one domain and with the same properties, over snapshots that differ only in the texts
of secrets of the same length, serve the same requests with the same questions to the store, the
same events, the same errors and the same statistics of what they hold.  Each draws its own random
words.

* `Tenant.alike_securityKey`: the key shows its length, and no more of what it is made from.
* `Tenant.alike_call`: every request shows the same over stores and from memories that do.
* `Tenant.observations`: what is seen of a run of requests, all but the answers.
* `Tenant.observations_eq_of_redact_eq`: it shows no secret.
-/

namespace TenantSettings

/-! ### Profiles -/

/-- What a profile of some kind is shows its redaction. -/
lemma Profile.as?_redact (k : ProfileKind) (p : Profile) :
    p.redact.as? k = (p.as? k).map k.redact := by
  by_cases h : p.kind = k
  · subst h
    rw [as?_kind]
    exact p.redact.as?_kind
  · rw [as?, as?, dif_neg h]
    exact dif_neg h

namespace Tenant

open Call

variable (t : Tenant)

/-- The profiles of one kind show their redactions. -/
lemma map_ofKind (k : ProfileKind) (m : OrderedMap String Profile) :
    (ofKind k m).map k.redact = ofKind k (m.map Profile.redact) := by
  rw [ofKind, OrderedMap.map_ofList, ofKind]
  congr 1
  rw [OrderedMap.map, List.filterMap_map, List.map_filterMap]
  simp [Function.comp_def, Profile.as?_redact]

lemma alike_buildProfiles (d : Definition) :
    Read.Alike (OrderedMap.map Profile.redact) (t.buildProfiles d) (t.buildProfiles d) := by
  unfold buildProfiles
  split
  · exact .pure rfl
  · refine .bind_shown (.ask (.profileIds d.category)) fun ids => ?_
    have one : ∀ id, Read.Alike (fun e => (e.1, e.2.redact))
        (do return (id, ← t.buildProfile d id)) (do return (id, ← t.buildProfile d id)) := by
      intro id
      exact .bind (.tellError _ (d.alike_build (t.reader (some id)))) fun p q same =>
        .pure (congrArg (id, ·) same)
    refine .bind (.mapM one ids) fun built built' same => ?_
    have images : (OrderedMap.ofList built).map Profile.redact
        = (OrderedMap.ofList built').map Profile.redact := by
      rw [OrderedMap.map_ofList, OrderedMap.map_ofList, same]
    -- the event tells how many there are, which is the same although passwords differ
    have sizes : (OrderedMap.ofList built).size = (OrderedMap.ofList built').size := by
      rw [← OrderedMap.size_map Profile.redact, images, OrderedMap.size_map]
    dsimp only
    rw [sizes]
    exact .bind_shown (.tell _) fun _ => .pure images

lemma alike_profiles (d : Definition) :
    Alike (OrderedMap.map Profile.redact) (t.profiles d) (t.profiles d) :=
  .lookUp (x := .profiles d) (fun store m => t.carryOut_profiles store m d)
    (fun store m => t.carryOut_profiles store m d) (.ofRead (t.alike_buildProfiles d))

lemma alike_profilesAs (k : ProfileKind) (d : Definition) :
    Alike (OrderedMap.map k.redact) (t.profilesAs k d) (t.profilesAs k d) := by
  refine (t.alike_profiles d).bind fun all all' same => .pure ?_
  rw [map_ofKind, map_ofKind, same]

lemma alike_selectDirectories :
    Alike (OrderedMap.map Directory.redact) t.selectDirectories t.selectDirectories := by
  refine (t.alike_profilesAs .directory .ldap).bind fun all all' same => ?_
  have images : (all.filterValues (·.enabled)).map Directory.redact
      = (all'.filterValues (·.enabled)).map Directory.redact := by
    have enabled : ∀ d : Directory, d.redact.enabled = d.enabled := fun _ => rfl
    rw [OrderedMap.map_filterValues _ enabled, OrderedMap.map_filterValues _ enabled]
    exact congrArg _ same
  have emptiness : (all.filterValues (·.enabled)).isEmpty
      = (all'.filterValues (·.enabled)).isEmpty := by
    rw [← OrderedMap.isEmpty_map Directory.redact, images, OrderedMap.isEmpty_map]
  dsimp only
  rw [emptiness]
  exact .ite (.bind_shown (.tell _) fun _ => .pure images) (.pure images)

lemma alike_directories :
    Alike (OrderedMap.map Directory.redact) t.directories t.directories :=
  .lookUp (x := .directories) t.carryOut_directories t.carryOut_directories
    t.alike_selectDirectories

/-- Whether there is a directory in use, and all of it but its password, is shown. -/
lemma alike_defaultDirectory : Alike Directory.redact t.defaultDirectory t.defaultDirectory := by
  refine t.alike_directories.bind fun enabled enabled' same => ?_
  have first : enabled.values.head?.map Directory.redact
      = enabled'.values.head?.map Directory.redact := by
    rw [← List.head?_map, ← List.head?_map, ← OrderedMap.values_map, ← OrderedMap.values_map, same]
  rcases Option.cases_of_map_eq first with ⟨missing, missing'⟩ | ⟨d, d', found, found', shown⟩
  · rw [missing, missing']
    exact .fail _
  · rw [found, found']
    exact .pure shown

lemma shown_publicPeopleSearch : Shown t.publicPeopleSearch := by
  refine .bind_shown (.ofRead (t.plain.alike_read _ .flag)) fun isOpen => ?_
  cases isOpen with
  | false => exact .pure rfl
  | true =>
      refine .bind_shown (.ofRead (t.plain.alike_read _ .text)) fun id => ?_
      refine (t.alike_profilesAs .peopleSearch .peopleSearchPublic).bind fun all all' same => ?_
      have equal : all = all' := by
        rw [← all.map_id, ← all'.map_id]
        exact same
      exact equal ▸ .pure rfl

/-! ### Policies, bundle texts and the digest -/

lemma shown_passwordPolicy (profile : String) (locale : Locale) :
    Shown (t.passwordPolicy profile locale) := by
  refine .bind_shown (.ofRead (.ask (.profileIds .passwordPolicy))) fun configured =>
    .bind_shown (.ofRead (.ofExcept rfl)) fun id => ?_
  refine .lookUp (x := .policy id locale) (fun store m => t.carryOut_keptPolicy store m id locale)
    (fun store m => t.carryOut_keptPolicy store m id locale) (.ofRead ?_)
  exact .bind_shown (PasswordPolicy.shown_read _ locale) fun _ =>
    .bind_shown (.tell _) fun _ => .pure rfl

lemma shown_challengeProfile (profile : String) (locale : Locale) :
    Shown (t.challengeProfile profile locale) :=
  .bind_shown (.ofRead (.ask (.profileIds .challengePolicy))) fun _ =>
    .bind_shown (.ofRead (.ofExcept rfl)) fun _ => .ofRead (ChallengeProfile.shown_read _ locale)

lemma shown_localizedBundle (b : Bundle) (key : String) : Shown (t.localizedBundle b key) :=
  .lookUp (x := .bundle b key) (fun store m => t.carryOut_localizedBundle store m b key)
    (fun store m => t.carryOut_localizedBundle store m b key)
    (.ofRead (.bind_shown (.ask (.bundle b key)) fun _ => .pure rfl))

end Tenant

/-- What the digest covers of a record is found without showing it. -/
lemma ItemKey.alike_content (k : ItemKey) :
    Inquiry.Alike (fun _ => ()) k.content k.content := by
  unfold content
  split
  · split
    · exact .ask _ fun _ _ _ => .pure rfl
    · exact .pure rfl
  · split
    · exact .ask _ fun _ _ _ => .pure rfl
    · exact .pure rfl
  · exact .pure rfl

/-- What the digest covers is found without showing it. -/
lemma alike_coveredText : Inquiry.Alike (fun _ => ()) coveredText coveredText := by
  refine .ask .modified fun items items' same => ?_
  rw [show items = items' from same]
  have covered : ∀ k : ItemKey, Inquiry.Alike (fun _ => ()) k.covered k.covered := fun k =>
    k.alike_content.bind fun _ _ _ => .pure rfl
  exact (Inquiry.Alike.mapM covered items').bind fun _ _ _ => .pure rfl

namespace Tenant

open Call

variable (t : Tenant)

/-- The digest shows nothing of itself. -/
lemma alike_digest : Alike (fun _ => "") t.digest t.digest := by
  refine .lookUp (x := .digest) t.carryOut_digest t.carryOut_digest (.ofRead (.lift ?_))
  exact alike_coveredText.bind fun _ _ _ => .pure (by simp only [Derived.redact])

/-! ### Queries -/

lemma shown_storageLocations (x : Setting) : Read.Shown (t.storageLocations x) := by
  refine .bind_shown (t.plain.alike_read _ .text) fun text =>
    .bind_shown (.forIn (fun word _ => ?_) _ _) fun _ => .pure rfl
  cases word with
  | error unknown => exact .bind_shown (.tell _) fun _ => .pure rfl
  | ok method => exact .pure rfl

lemma shown_tokenStorage : Read.Shown t.tokenStorage := by
  refine .bind_shown (t.plain.alike_read _ .text) fun word => ?_
  cases (Literal.ofText? word : Option TokenStorage) with
  | none => exact .bind_shown (.tell _) fun _ => .pure rfl
  | some method => exact .pure rfl

/-- Whether the password of the database is stored is shown, but not the password. -/
lemma shown_hasDatabase : Read.Shown t.hasDatabase := by
  refine .bind_shown (t.plain.alike_read _ .text) fun _ => .ite (.pure rfl) ?_
  refine .bind_shown (t.plain.alike_read _ .text) fun _ => .ite (.pure rfl) ?_
  refine .bind_shown (t.plain.alike_read _ .text) fun _ => .ite (.pure rfl) ?_
  refine .bind (t.plain.alike_read _ .password) fun stored stored' same => .pure ?_
  have present := congrArg Option.isSome same
  simpa [Reading.redact] using present

lemma shown_nonDefaultSettings : Read.Shown t.nonDefaultSettings :=
  .bind_shown (.ask .modified) fun _ => .pure rfl

lemma shown_knownLocales : Read.Shown t.knownLocales :=
  .bind_shown (t.plain.alike_read _ .texts) fun _ => .pure rfl

lemma shown_flags : Read.Shown t.flags :=
  .bind_shown t.shown_knownLocales fun _ => .pure rfl

lemma shown_certificateMatching : Read.Shown t.certificateMatching :=
  .bind_shown (t.plain.alike_read _ (.oneOf CertificateMatching)) fun _ => .pure rfl

/-! ### The key -/

variable (words : Nat → Nat → Nat)

/-- The tenant with other random words to draw from. -/
def drawing (t : Tenant) (words : Nat → Nat → Nat) : Tenant := { t with words }

/-- Generated key texts have one length, whatever is drawn. -/
lemma alike_drawKeyText :
    Alike (Derived.redact .keyText) t.drawKeyText (t.drawing words).drawKeyText := by
  intro m n same s u _
  show (t.drawKeyText.carryOut s m).map _ = ((t.drawing words).drawKeyText.carryOut u n).map _
  rw [carryOut_drawKeyText, carryOut_drawKeyText]
  refine Outcome.map_eq_map_iff.mpr ⟨Prod.ext (congrArg Except.ok ?_) ?_, rfl, rfl⟩
  · refine congrArg Secret.text (Secret.redact_eq_redact_iff.mpr ?_)
    exact (SecurityKey.length_drawText _ _).trans (SecurityKey.length_drawText _ _).symm
  · show { m.redact with draws := m.redact.draws + 1 }
      = { n.redact with draws := n.redact.draws + 1 }
    rw [same]

lemma alike_keyText : Alike (Derived.redact .keyText) t.keyText (t.drawing words).keyText :=
  .lookUp (x := .keyText) t.carryOut_keyText (t.drawing words).carryOut_keyText
    (t.alike_drawKeyText words)

/-- Of a configured secret only the length decides whether it makes a key. -/
lemma alike_deriveKey : Alike SecurityKey.redact t.deriveKey (t.drawing words).deriveKey := by
  refine (Alike.ofRead (t.plain.alike_read _ .password)).bind fun stored stored' same => ?_
  -- an empty secret is none, which its length shows
  have configured : ∀ o : Option Secret, (o.filter (!·.isEmpty)).map Secret.redact
      = (o.map Secret.redact).filter (!·.isEmpty) := by
    intro o
    rw [Option.filter_map]
    simp [Function.comp_def]
  have secrets : (stored.filter (!·.isEmpty)).map Secret.redact
      = (stored'.filter (!·.isEmpty)).map Secret.redact := by
    rw [configured, configured]
    exact congrArg _ same
  -- both secrets are there or neither is, and then they are of one length
  rcases Option.cases_of_map_eq secrets with ⟨unset, unset'⟩ | ⟨secret, secret', set, set', alike⟩
  · rw [unset, unset']
    refine .bind_shown (.tell _) fun _ =>
      (t.alike_keyText words).bind fun text text' texts => .pure ?_
    have length : text.length = text'.length :=
      Secret.redact_eq_redact_iff.mp (congrArg Secret.mk texts)
    exact SecurityKey.redact_ofText_eq length true
  · rw [set, set']
    have length : secret.length = secret'.length := Secret.redact_eq_redact_iff.mp alike
    dsimp only
    rw [length]
    exact .ite (.fail _) (.pure (SecurityKey.redact_ofText_eq length false))

lemma alike_securityKey : Alike SecurityKey.redact t.securityKey (t.drawing words).securityKey :=
  .lookUp (x := .key) t.carryOut_securityKey (t.drawing words).carryOut_securityKey
    (t.alike_deriveKey words)

/-! ### Requests -/

/-- Only a call for the key draws random words. -/
lemma call_drawing {r : Request} (h : r ≠ .securityKey) : r.call (t.drawing words) = r.call t := by
  cases r with
  | securityKey => exact absurd rfl h
  | _ => rfl

/-- Every request shows the same over stores and from memories of one redaction, its answer left
aside. -/
theorem alike_call (r : Request) :
    Alike (fun _ => ()) (r.call t) (r.call (t.drawing words)) := by
  -- the key alone is drawn, so that two tenants make different calls for it
  by_cases key : r = .securityKey
  · subst key
    exact (t.alike_securityKey words).forget
  rw [t.call_drawing words key]
  cases r with
  | read profile x reading => exact (Alike.ofRead ((t.reader profile).alike_read x reading)).forget
  | raw profile x => exact (Alike.ofRead ((t.reader profile).alike_raw x)).forget
  | isDefault profile x => exact (Alike.ofRead ((t.reader profile).shown_isDefault x)).forget
  | profiles d => exact (t.alike_profiles d).forget
  | profilesOf k => exact (t.alike_profilesAs k (.ofKind k)).forget
  | buildProfile profile d => exact (Alike.ofRead (d.alike_build (t.reader profile))).forget
  | directories => exact t.alike_directories.forget
  | defaultDirectory => exact t.alike_defaultDirectory.forget
  | publicPeopleSearch => exact t.shown_publicPeopleSearch.forget
  | profileIds c => exact (Alike.ofRead (.ask (.profileIds c))).forget
  | passwordPolicy profile locale => exact (t.shown_passwordPolicy profile locale).forget
  | challengeProfile profile locale => exact (t.shown_challengeProfile profile locale).forget
  | securityKey => exact absurd rfl key
  | localizedBundle b k => exact (t.shown_localizedBundle b k).forget
  | digest => exact t.alike_digest.forget
  | storageLocations x => exact (Alike.ofRead (t.shown_storageLocations x)).forget
  | tokenStorage => exact (Alike.ofRead t.shown_tokenStorage).forget
  | logLevel => exact (Alike.ofRead (t.plain.alike_read _ (.oneOf LogLevel))).forget
  | certificateMatching => exact (Alike.ofRead t.shown_certificateMatching).forget
  | hasDatabase => exact (Alike.ofRead t.shown_hasDatabase).forget
  | nonDefaultSettings => exact (Alike.ofRead t.shown_nonDefaultSettings).forget
  | modified => exact (Alike.ofRead (.ask .modified)).forget
  | templates => exact (Alike.ofRead (.ask .templates)).forget
  | knownLocales => exact (Alike.ofRead t.shown_knownLocales).forget
  | flags => exact (Alike.ofRead t.shown_flags).forget

end Tenant

/-! ### Runs -/

/-- What is seen of a request that is served, its answer left aside: the questions that it puts to
the store, the events that it logs, the error that it fails with, and how much is held after it. -/
structure Observation where
  asked : List Question
  events : List Event
  failure : Option ConfigError
  stats : Memory.Stats
deriving DecidableEq, Repr

/-- The error of a result. -/
def failure? {α : Type} : Except ConfigError α → Option ConfigError
  | .ok _ => none
  | .error e => some e

/-- What is seen of an outcome. -/
def Outcome.observation {α : Type} (o : Outcome (Except ConfigError α × Memory)) : Observation :=
  ⟨o.asked, o.events, failure? o.value.1, o.value.2.stats⟩

/-- What is seen of an outcome is in what it shows. -/
lemma Outcome.observation_map {α γ : Type} (μ : α → γ)
    (o : Outcome (Except ConfigError α × Memory)) :
    (o.map (Call.shown μ)).observation = o.observation := by
  obtain ⟨⟨result, m⟩, asked, events⟩ := o
  cases result <;> simp [observation, map, Call.shown, failure?, Except.map, m.stats_redact]

namespace Tenant

variable (t : Tenant) (words : Nat → Nat → Nat)

/-- What is seen of requests that are served one after another. -/
def observations (t : Tenant) (store : Store) (m : Memory) : List Request → List Observation
  | [] => []
  | r :: rest =>
    let served := t.serve store m r
    served.observation :: t.observations store served.value.2 rest

/-- One request shows the same, and leaves memories of one redaction. -/
lemma serve_eq {s s' : Store} (stores : s.redact = s'.redact) {m m' : Memory}
    (memories : m.redact = m'.redact) (r : Request) :
    (t.serve s m r).observation = ((t.drawing words).serve s' m' r).observation ∧
      (t.serve s m r).value.2.redact = ((t.drawing words).serve s' m' r).value.2.redact := by
  have shown : (t.serve s m r).map (Call.shown fun _ => ())
      = ((t.drawing words).serve s' m' r).map (Call.shown fun _ => ()) :=
    t.alike_call words r m m' memories s s' stores
  refine ⟨?_, (Prod.mk.inj (Outcome.map_eq_map_iff.mp shown).1).2⟩
  rw [← Outcome.observation_map fun _ => (), shown, Outcome.observation_map]

/-- A run of requests shows the same over stores and from memories of one redaction. -/
lemma observations_eq {s s' : Store} (stores : s.redact = s'.redact) (requests : List Request)
    {m m' : Memory} (memories : m.redact = m'.redact) :
    t.observations s m requests = (t.drawing words).observations s' m' requests := by
  -- the memories may hold different secrets on the way, but always show the same
  induction requests generalizing m m' with
  | nil => rfl
  | cons r rest ih =>
      obtain ⟨seen, left⟩ := t.serve_eq words stores memories r
      rw [observations, observations]
      exact List.cons_eq_cons.mpr ⟨seen, ih left⟩

/-- Over two snapshots that differ only in the texts of their secrets, each as long as the other,
fresh tenants of one domain that serve the same requests are seen to put the same questions to the
store, to log the same events, to fail with the same errors in the same calls and to hold the same
amounts after each call. -/
theorem observations_eq_of_redact_eq {s s' : Snapshot} (same : s.redact = s'.redact)
    (requests : List Request) :
    t.observations s.store .empty requests
      = (t.drawing words).observations s'.store .empty requests :=
  t.observations_eq words (Snapshot.store_redact_eq same) requests rfl

/-- Two secrets, both too short for a key and both the password of a directory without servers, in
tenants that are asked for the key, the directories and the key again. -/
theorem observations_eq_of_redact_eq_short_key :
    let holding (text : String) : List Snapshot.Step := [
      .value Schema.securityKey (.password (some ⟨text⟩)),
      .profileValue Schema.ldapProfileEnabled "corp" (.flag true),
      .profileValue Schema.ldapProxyUserPassword "corp" (.password (some ⟨text⟩))]
    let s := (holding "hunter2").foldl Snapshot.apply .empty
    let s' := (holding "letmein").foldl Snapshot.apply .empty
    let t : Tenant := ⟨"example.org", .default, fun _ _ => 0⟩
    let requests : List Request := [.securityKey, .directories, .securityKey]
    s.redact = s'.redact
      ∧ s.value Schema.securityKey none ≠ s'.value Schema.securityKey none
      ∧ (t.observations s.store .empty requests).map (·.failure)
        = [some (.ofCause (.shortKey 32)), some (.ofProfile "corp" .noServers),
          some (.ofCause (.shortKey 32))]
      ∧ t.observations s.store .empty requests
        = (t.drawing fun _ n => n).observations s'.store .empty requests := by
  dsimp only
  have lengths : Secret.redact ⟨"hunter2"⟩ = Secret.redact ⟨"letmein"⟩ := by decide
  refine (fun same =>
    ⟨same, by decide, rfl, observations_eq_of_redact_eq _ (fun _ n => n) same _⟩) ?_
  rw [Snapshot.foldl_redact, Snapshot.foldl_redact]
  simp [Snapshot.Step.redact, StoredValue.redact, lengths]

end Tenant

end TenantSettings

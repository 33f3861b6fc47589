import TenantSettings.Proofs.Store.Modified
import TenantSettings.Proofs.Tenant.Scope
import TenantSettings.Proofs.Tenant.Soundness

/-!
# Steps without effect

A step may leave no trace in what differs from its default: it makes a profile known, names the
templates, or stores a default where nothing else is stored. Two snapshots whose steps differ only
in such steps have the same records, and so the same digest, although the one holds entries in
between that the other does not have.

* `Snapshot.Restricts`: a snapshot that holds of another the values under some keys; kept by a step
  that both take (`Restricts.apply`), and by one of the other that writes under no such key
  (`Restricts.apply_apart`).
* `Question.AboutContent`: what does not ask for profile ids or templates; where the values that are
  left out are defaults, both snapshots answer it alike (`Restricts.answer_eq`).
* `Tenant.answer_congr_of_content`: the records, the settings that are not default and the digest
  rest on such questions only.
* `Snapshot.idle_step`: a step without effect, put in anywhere.
-/

namespace TenantSettings

/-! ### Questions about what is stored -/

/-- A question about values, texts and records, not about profile ids or templates. -/
def Question.AboutContent : Question → Prop
  | .profileIds _ | .templates => False
  | _ => True

/-- The digest asks about a record for a value or for texts, if anything. -/
lemma ItemKey.aboutContent_of_mem_content (store : Store) {k : ItemKey} {q : Question}
    (asked : q ∈ (k.content.run store).asked) : q.AboutContent := by
  unfold content at asked
  split at asked
  · split at asked
    · rw [List.mem_singleton.mp asked]
      trivial
    · cases asked
  · split at asked
    · rw [List.mem_singleton.mp asked]
      trivial
    · cases asked
  · cases asked

/-- The records that differ from their defaults, the settings among them and the digest are the same
over stores that answer alike what is asked about values, texts and records. -/
lemma Tenant.answer_congr_of_content (t : Tenant) {store store' : Store}
    (agree : ∀ q : Question, q.AboutContent → store.answer q = store'.answer q) :
    ∀ r ∈ [Request.modified, .nonDefaultSettings, .digest],
      t.answer store r = t.answer store' r := by
  have digest : Read.AsksOnly Question.AboutContent computeDigest := by
    intro store q asked
    rw [asked_computeDigest] at asked
    rcases List.mem_cons.mp asked with rfl | later
    · trivial
    · obtain ⟨k, -, inside⟩ := List.mem_flatMap.mp later
      exact k.aboutContent_of_mem_content store inside
  have settings : Read.AsksOnly Question.AboutContent t.nonDefaultSettings :=
    (Read.AsksOnly.ask trivial).bind fun _ => .pure _
  intro r listed
  simp only [List.mem_cons, List.not_mem_nil, or_false] at listed
  rcases listed with rfl | rfl | rfl
  · exact congrArg Except.ok (agree .modified trivial)
  · exact congrArg Outcome.value (settings.carryOut_congr agree)
  · exact congrArg Outcome.value (digest.carryOut_congr agree)

namespace Snapshot

/-! ### Snapshots without some of the values -/

namespace Step

/-- A step that writes no value but under keys that satisfy `p`. -/
def WritesIn (p : Setting × Option String → Bool) : Step → Prop
  | .value x _ => p (x, none) = true
  | .profileValue x id _ => p (x, some id) = true
  | _ => True

/-- A step that writes nothing but values under keys that do not satisfy `p`. -/
def WritesApart (p : Setting × Option String → Bool) : Step → Prop
  | .value x _ => p (x, none) = false
  | .profileValue x id _ => p (x, some id) = false
  | .bundle _ _ _ | .property _ _ => False
  | _ => True

variable {p : Setting × Option String → Bool} {step : Step}

lemma writesIn_of_written? (h : ∀ x profile v, step.written? x profile = some v →
    p (x, profile) = true) : step.WritesIn p := by
  cases step with
  | value x v => exact h x none v (by simp [written?])
  | profileValue x id v => exact h x (some id) v (by simp [written?])
  | _ => trivial

lemma writesApart_of_written? {x : Setting} {profile : Option String} {v : StoredValue}
    (wrote : step.written? x profile = some v) (apart : p (x, profile) = false) :
    step.WritesApart p := by
  rcases written?_eq_some_iff.mp wrote with ⟨rfl, rfl⟩ | ⟨id, rfl, rfl⟩
  · exact apart
  · exact apart

end Step

/-- A snapshot that holds the same as another, of the values only those under keys that satisfy `p`.
Profile ids and templates are left aside. -/
structure Restricts (p : Setting × Option String → Bool) (s s' : Snapshot) : Prop where
  values : s'.values.entries.filter (fun e => p e.1) = s.values.entries
  bundles : s.bundles = s'.bundles
  properties : s.properties = s'.properties

namespace Restricts

variable {p : Setting × Option String → Bool} {s s' : Snapshot} (h : Restricts p s s')

lemma empty : Restricts p Snapshot.empty Snapshot.empty := ⟨rfl, rfl, rfl⟩

include h

lemma put {x : Setting} {profile : Option String} (inside : p (x, profile) = true)
    (v : StoredValue) : Restricts p (s.put x profile v) (s'.put x profile v) := by
  refine ⟨?_, h.bundles, h.properties⟩
  show (OrderedMap.insertEntry _ _ _).filter _ = OrderedMap.insertEntry _ _ _
  rw [OrderedMap.filter_insertEntry, if_pos inside, h.values]

lemma put_apart {x : Setting} {profile : Option String} (apart : p (x, profile) = false)
    (v : StoredValue) : Restricts p s (s'.put x profile v) := by
  refine ⟨?_, h.bundles, h.properties⟩
  show (OrderedMap.insertEntry _ _ _).filter _ = _
  rw [OrderedMap.filter_insertEntry, if_neg (by simp [apart]), h.values]

lemma addProfile (c : Category) (id : String) : Restricts p s (s'.addProfile c id) := by
  unfold Snapshot.addProfile
  split
  · exact h
  · exact ⟨h.values, h.bundles, h.properties⟩

lemma addProfile_both (c : Category) (id : String) :
    Restricts p (s.addProfile c id) (s'.addProfile c id) := by
  unfold Snapshot.addProfile
  split <;> split <;> exact ⟨h.values, h.bundles, h.properties⟩

/-- A step that both take. -/
lemma apply {step : Step} (inside : step.WritesIn p) :
    Restricts p (s.apply step) (s'.apply step) := by
  cases step with
  | value x v => exact h.put inside v
  | profileValue x id v => exact (h.addProfile_both x.category id).put inside v
  | profile c id => exact h.addProfile_both c id
  | bundle b key texts =>
      exact ⟨h.values, congrArg (·.insert (b, key) (.ofList texts)) h.bundles, h.properties⟩
  | property name text =>
      exact ⟨h.values, h.bundles, congrArg (·.insert name text) h.properties⟩
  | templates names => exact ⟨h.values, h.bundles, h.properties⟩

/-- A step that only the second takes. -/
lemma apply_apart {step : Step} (apart : step.WritesApart p) : Restricts p s (s'.apply step) := by
  cases step with
  | value x v => exact h.put_apart apart v
  | profileValue x id v => exact (h.addProfile x.category id).put_apart apart v
  | profile c id => exact h.addProfile c id
  | templates names => exact ⟨h.values, h.bundles, h.properties⟩
  | _ => exact apart.elim

lemma foldl {steps : List Step} (inside : ∀ step ∈ steps, step.WritesIn p) :
    Restricts p (steps.foldl Snapshot.apply s) (steps.foldl Snapshot.apply s') := by
  induction steps generalizing s s' with
  | nil => exact h
  | cons step rest ih =>
      exact ih (h.apply (inside step List.mem_cons_self))
        fun other later => inside other (List.mem_cons_of_mem step later)

/-! ### What is left out is default -/

variable (default : ∀ k, p k = false → s'.value k.1 k.2 = k.1.defaultValue)

include default

lemma value_eq (x : Setting) (profile : Option String) :
    s.value x profile = s'.value x profile := by
  have found : s.values.get? (x, profile)
      = (s'.values.get? (x, profile)).filter fun _ => p (x, profile) := by
    rw [OrderedMap.get?, ← h.values]
    exact OrderedMap.lookup_filter s'.values.nodup (fun e => p e.1) (x, profile)
  cases seen : p (x, profile) with
  | true =>
      have same : s.values.get? (x, profile) = s'.values.get? (x, profile) := by
        rw [found, seen]
        cases s'.values.get? (x, profile) <;> rfl
      rw [Snapshot.value, Snapshot.value, same]
  | false =>
      have hidden : s.values.get? (x, profile) = none := by
        rw [found, seen]
        cases s'.values.get? (x, profile) <;> rfl
      rw [default _ seen, Snapshot.value, hidden]
      rfl

lemma changed_eq : s.changed = s'.changed := by
  -- an entry that is left out is a default, which the list of changes leaves out as well
  have seen : ∀ e ∈ s'.values.entries, (e.2 != e.1.1.defaultValue) = true → p e.1 = true := by
    intro e mem differs
    by_contra left
    have stored : s'.value e.1.1 e.1.2 = e.2 := by
      rw [Snapshot.value, show s'.values.get? (e.1.1, e.1.2) = some e.2 from
        OrderedMap.get?_of_mem mem]
      rfl
    rw [← stored, default e.1 (by simpa using left)] at differs
    simp at differs
  unfold changed
  rw [← h.values, List.filter_filter]
  refine congrArg _ (List.filter_congr fun e mem => ?_)
  cases differs : e.2 != e.1.1.defaultValue with
  | true => simp [seen e mem differs]
  | false => simp

/-- Both answer alike what is asked about values, texts and records. -/
lemma answer_eq {q : Question} (content : q.AboutContent) :
    s.store.answer q = s'.store.answer q := by
  have value := h.value_eq default
  cases q with
  | value x profile => exact value x profile
  | isDefault x profile =>
      have same : s.isDefault x profile = true ↔ s'.isDefault x profile = true := by
        rw [isDefault_iff, isDefault_iff, value]
      exact Bool.eq_iff_iff.mpr same
  | bundle b key =>
      show s.bundle b key = s'.bundle b key
      rw [Snapshot.bundle, Snapshot.bundle, h.bundles]
  | modified =>
      show s.modified = s'.modified
      rw [modified_eq, modified_eq, h.changed_eq default, h.bundles, h.properties]
  | templates => exact content.elim
  | profileIds c => exact content.elim

/-- After any runs of requests, the records, the settings that are not default and the digest are
the same. -/
lemma serve_eq (t : Tenant) (requests requests' : List Request) :
    ∀ r ∈ [Request.modified, .nonDefaultSettings, .digest],
      (t.serve s'.store (t.memoryAfter s'.store .empty requests') r).value.1
        = (t.serve s.store (t.memoryAfter s.store .empty requests) r).value.1 := by
  intro r listed
  rw [t.serve_memoryAfter_eq_answer, t.serve_memoryAfter_eq_answer]
  exact (t.answer_congr_of_content (fun q => h.answer_eq default) r listed).symm

end Restricts

/-! ### Steps without effect -/

namespace Step

/-- A step without effect among others: it makes a profile known, names the templates, or stores the
default of a setting where no other step stores anything. -/
def Idle (others : List Step) : Step → Prop
  | .value x v => v = x.defaultValue ∧ ∀ other ∈ others, other.written? x none = none
  | .profileValue x id v =>
      v = x.defaultValue ∧ ∀ other ∈ others, other.written? x (some id) = none
  | .profile _ _ | .templates _ => True
  | .bundle _ _ _ | .property _ _ => False

variable {step : Step} {others : List Step} (idle : step.Idle others)

include idle

/-- What a step without effect writes is a default, and no other step writes there. -/
lemma Idle.of_written? {x : Setting} {profile : Option String} {v : StoredValue}
    (wrote : step.written? x profile = some v) :
    v = x.defaultValue ∧ ∀ other ∈ others, other.written? x profile = none := by
  rcases written?_eq_some_iff.mp wrote with ⟨rfl, rfl⟩ | ⟨id, rfl, rfl⟩
  · exact idle
  · exact idle

/-- It writes nothing but under its own key, -/
lemma Idle.writesApart : step.WritesApart fun k => (step.written? k.1 k.2).isNone := by
  cases step with
  | value x v => simp [WritesApart, written?]
  | profileValue x id v => simp [WritesApart, written?]
  | profile c id => trivial
  | templates names => trivial
  | _ => exact idle.elim

/-- and the others write under other keys. -/
lemma Idle.writesIn {other : Step} (mem : other ∈ others) :
    other.WritesIn fun k => (step.written? k.1 k.2).isNone := by
  refine writesIn_of_written? fun x profile v wrote => ?_
  cases own : step.written? x profile with
  | none => rfl
  | some w =>
      rw [(idle.of_written? own).2 other mem] at wrote
      cases wrote

end Step

/-- The snapshot of some steps, and the one with a step without effect among them. -/
lemma restricts_idle (before after : List Step) {step : Step}
    (idle : step.Idle (before ++ after)) :
    Restricts (fun k => (step.written? k.1 k.2).isNone) ((before ++ after).foldl apply empty)
      ((before ++ step :: after).foldl apply empty) := by
  rw [List.foldl_append, List.foldl_append, List.foldl_cons]
  have early := Restricts.empty.foldl fun other mem =>
    idle.writesIn (List.mem_append_left after mem)
  exact (early.apply_apart idle.writesApart).foldl
    fun other mem => idle.writesIn (List.mem_append_right before mem)

/-- What a step without effect writes is read as the default. -/
lemma value_of_idle (before after : List Step) {step : Step} (idle : step.Idle (before ++ after))
    {x : Setting} {profile : Option String} (wrote : (step.written? x profile).isNone = false) :
    ((before ++ step :: after).foldl apply empty).value x profile = x.defaultValue := by
  obtain ⟨v, wrote⟩ := Option.isSome_iff_exists.mp (by simpa using wrote)
  obtain ⟨rfl, alone⟩ := idle.of_written? wrote
  have others : ∀ l ⊆ before ++ after, l.filterMap (Step.written? x profile) = [] := fun l part =>
    List.filterMap_eq_nil_iff.mpr fun other mem => alone other (part mem)
  rw [value, get?_values_foldl, List.filterMap_append, List.filterMap_cons_some wrote,
    others before (List.subset_append_left before after),
    others after (List.subset_append_right before after)]
  rfl

/-- Steps that build a snapshot still build one when a step without effect is put in anywhere among
them; and after any runs of requests over the two, the records that differ from their defaults, the
settings among them and the digest are the same. -/
theorem idle_step (before after : List Step) {s : Snapshot}
    (built : build (before ++ after) = .ok s) {step : Step} (fits : step.Fits)
    (idle : step.Idle (before ++ after)) :
    ∃ s', build (before ++ step :: after) = .ok s'
      ∧ ∀ (t : Tenant) (requests requests' : List Request),
        ∀ r ∈ [Request.modified, .nonDefaultSettings, .digest],
          (t.serve s'.store (t.memoryAfter s'.store .empty requests') r).value.1
            = (t.serve s.store (t.memoryAfter s.store .empty requests) r).value.1 := by
  obtain ⟨faultless, rfl⟩ := build_eq_ok_iff.mp built
  have all : ∀ other ∈ before ++ step :: after, other.fault? = none := by
    intro other mem
    rcases List.mem_append.mp mem with early | late
    · exact faultless other (List.mem_append_left after early)
    · rcases List.mem_cons.mp late with rfl | late
      · exact Step.fault?_eq_none_iff.mpr fits
      · exact faultless other (List.mem_append_right before late)
  refine ⟨_, build_eq_ok_iff.mpr ⟨all, rfl⟩, fun t requests requests' => ?_⟩
  exact (restricts_idle before after idle).serve_eq
    (fun k silent => value_of_idle before after idle silent) t requests requests'

/-- Another directory is said to be in use, which it is by default, before the first one is given
its servers. -/
theorem idle_step_second_directory :
    let before : List Step := [.value Schema.siteAddress (.text "https://id.example.org")]
    let after : List Step :=
      [.profileValue Schema.ldapServerAddresses "west" (.texts ["ldaps://a"]),
        .bundle .display "Title" [("en", "Welcome")]]
    let step : Step :=
      .profileValue Schema.ldapProfileEnabled "east" Schema.ldapProfileEnabled.defaultValue
    step.Fits ∧ step.Idle (before ++ after)
      ∧ ∃ s s', build (before ++ after) = .ok s ∧ build (before ++ step :: after) = .ok s'
        ∧ s.profileIds .ldapProfile = ["west"] ∧ s'.profileIds .ldapProfile = ["east", "west"]
        ∧ ∀ t : Tenant,
          (t.serve s'.store (t.memoryAfter s'.store .empty [.directories]) .digest).value.1
            = (t.serve s.store (t.memoryAfter s.store .empty []) .digest).value.1 := by
  intro before after step
  have fits : step.Fits := by decide
  have idle : step.Idle (before ++ after) := by
    refine ⟨rfl, fun other mem => ?_⟩
    simp only [before, after, List.cons_append, List.nil_append, List.mem_cons,
      List.not_mem_nil, or_false] at mem
    rcases mem with rfl | rfl | rfl <;> decide
  have built : build (before ++ after) = .ok ((before ++ after).foldl apply empty) := rfl
  obtain ⟨s', built', same⟩ := idle_step before after built fits idle
  obtain ⟨-, rfl⟩ := build_eq_ok_iff.mp built'
  exact ⟨fits, idle, _, _, built, built', rfl, rfl,
    fun t => same t [] [.directories] .digest (by simp)⟩

/-! ### Settings without effect -/

/-- The snapshot of some steps, and the one without what they write for a setting in one scope. -/
lemma restricts_spared (steps : List Step) (x : Setting) (profile : Option String) :
    Restricts (fun k => decide (k ≠ (x, profile)))
      ((steps.filter fun step => (step.written? x profile).isNone).foldl apply empty)
      (steps.foldl apply empty) := by
  -- the last step is taken by both or, if it writes the setting there, by the second only
  induction steps using List.reverseRecOn with
  | nil => exact .empty
  | append_singleton steps step ih =>
      rw [List.filter_append, List.foldl_append, List.foldl_concat]
      cases wrote : step.written? x profile with
      | none =>
          rw [List.filter_cons_of_pos (by simp [wrote]), List.filter_nil]
          refine ih.apply (Step.writesIn_of_written? fun y scope v elsewhere => ?_)
          have other : (y, scope) ≠ (x, profile) := by
            rintro ⟨⟩
            rw [wrote] at elsewhere
            cases elsewhere
          exact decide_eq_true other
      | some v =>
          rw [List.filter_cons_of_neg (by simp [wrote]), List.filter_nil]
          exact ih.apply_apart (Step.writesApart_of_written? wrote (by simp))

/-- A setting that has its default value has no effect: without the steps that write it there, the
records that differ from their defaults, the settings among them and the digest are the same. -/
lemma exists_build_spared {steps : List Step} {s : Snapshot} (built : build steps = .ok s)
    {x : Setting} {profile : Option String} (isDefault : s.isDefault x profile = true) :
    ∃ s', build (steps.filter fun step => (step.written? x profile).isNone) = .ok s'
      ∧ ∀ (t : Tenant) (requests requests' : List Request),
        ∀ r ∈ [Request.modified, .nonDefaultSettings, .digest],
          (t.serve s.store (t.memoryAfter s.store .empty requests') r).value.1
            = (t.serve s'.store (t.memoryAfter s'.store .empty requests) r).value.1 := by
  obtain ⟨faultless, rfl⟩ := build_eq_ok_iff.mp built
  have kept : ∀ step ∈ steps.filter fun step => (step.written? x profile).isNone,
      step.fault? = none := fun step mem => faultless step (List.mem_of_mem_filter mem)
  refine ⟨_, build_eq_ok_iff.mpr ⟨kept, rfl⟩, fun t requests requests' => ?_⟩
  refine (restricts_spared steps x profile).serve_eq (fun k left => ?_) t requests requests'
  obtain rfl : k = (x, profile) := by simpa using left
  exact (isDefault_iff _ x profile).mp isDefault

end Snapshot

end TenantSettings

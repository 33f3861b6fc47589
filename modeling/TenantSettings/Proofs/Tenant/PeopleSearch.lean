import TenantSettings.Proofs.Tenant.ProfileMaps
import TenantSettings.Proofs.Tenant.Scope

/-!
# The public search for people

The search for people that is open to the public is built from the same settings as the one for
users, but for the setting that says whom a profile applies to: the public search does not ask for
it. So no profile is handed out by the wrong one of the two, and what is stored about users cannot
show through the public one.

* `Question.AboutMatch`: what a store can be asked about whom people searches apply to;
  `Store.AgreeButMatch`: stores that differ in nothing else.
* `Tenant.answer_publicPeopleSearch_congr`: such stores have the same public search.
* `Tenant.peopleSearch_separated`: the two searches, after any run of requests.
-/

namespace TenantSettings

/-! ### Stores that differ in whom people searches apply to -/

/-- The questions that may show whom people searches apply to: the value of that setting under any
profile, whether it is the default, and which records differ from their defaults. -/
def Question.AboutMatch : Question → Prop
  | .value x _ | .isDefault x _ => x = Schema.peopleSearchQueryMatch
  | .modified => True
  | _ => False

/-- Two stores differ only in whom people searches apply to, where they may hold anything, also
values that do not fit. -/
def Store.AgreeButMatch (s s' : Store) : Prop :=
  ∀ q : Question, ¬ q.AboutMatch → s.answer q = s'.answer q

/-- Whatever is stored there, the stores agree otherwise. -/
lemma Store.agreeButMatch_answering (s : Store) (profile : Option String) (v : StoredValue) :
    s.AgreeButMatch (s.answering (.value Schema.peopleSearchQueryMatch profile) v) := by
  intro q other
  have apart : .value Schema.peopleSearchQueryMatch profile ≠ q := by
    rintro rfl
    exact other rfl
  exact (s.answer_answering_of_ne (q := .value _ profile) v apart).symm

namespace Reader

open Read

variable (r : Reader)

/-- A read asks for the value of its setting, and for nothing else. -/
lemma asksOnly_own {P : Question → Prop} {x : Setting} (h : ∀ profile, P (.value x profile))
    (reading : Reading) : AsksOnly P (r.read x reading) :=
  have raw : AsksOnly P (r.raw x) := (AsksOnly.ofExcept _).bind fun _ => .ask (h _)
  raw.bind fun _ => (AsksOnly.ofExcept _).bind fun _ => (AsksOnly.tellAll _).bind fun _ => .pure _

/-- A read of any other setting does not ask whom people searches apply to. -/
lemma asksOnly_butMatch {x : Setting} (other : x ≠ Schema.peopleSearchQueryMatch)
    (reading : Reading) : AsksOnly (fun q => ¬ q.AboutMatch) (r.read x reading) :=
  r.asksOnly_own (fun _ => other) reading

/-- Nor does a profile of the public search. -/
lemma asksOnly_buildPublic :
    AsksOnly (fun q => ¬ q.AboutMatch) (Definition.peopleSearchPublic.build r) := by
  have limit : AsksOnly (fun q => ¬ q.AboutMatch) (r.number Schema.peopleSearchLimit) :=
    (r.asksOnly_butMatch (by decide) .number).bind fun _ => .pure _
  have record : AsksOnly (fun q => ¬ q.AboutMatch) (PeopleSearch.read true r) :=
    .bind limit fun _ => .bind (.pure _) fun _ =>
      .bind (r.asksOnly_butMatch (by decide) .form) fun _ =>
      .bind (r.asksOnly_butMatch (by decide) .form) fun _ => .pure _
  exact .mapError _ (record.map _)

/-- What is found as a text is stored as a text or as a choice. -/
lemma Finds.stored_text {r : Reader} {store : Store} {x : Setting} {text : String}
    (h : r.Finds store x .text text) (plain : x.isProfiled = false) :
    store.answer (.value x none) = .text text ∨ store.answer (.value x none) = .choice text := by
  obtain ⟨profile, warnings, scope, decoded⟩ := h
  rw [Reader.scope, plain] at scope
  obtain rfl : none = profile := Except.ok.inj scope
  revert decoded
  generalize store.answer (.value x none) = v
  intro decoded
  cases v with
  | text stored => exact .inl (by rw [(Prod.mk.inj (Except.ok.inj decoded)).1])
  | choice stored => exact .inr (by rw [(Prod.mk.inj (Except.ok.inj decoded)).1])
  | _ => cases decoded

end Reader

namespace Tenant

open Call Read

variable (t : Tenant) {store store' : Store}

/-- A value that comes of two steps comes of the first and then of the second. -/
lemma exists_of_bind {α β : Type} {x : Except ConfigError α} {f : α → Except ConfigError β} {b : β}
    (done : (do f (← x)) = Except.ok b) : ∃ a, x = .ok a ∧ f a = .ok b := by
  cases x with
  | error e => cases done
  | ok a => exact ⟨a, rfl, done⟩

/-- A search that is handed out to users is not public. -/
lemma isPublic_of_profilesOf {records : OrderedMap String PeopleSearch}
    (answered : t.answer store (.profilesOf .peopleSearch) = .ok records)
    {e : String × PeopleSearch} (mem : e ∈ records.entries) : e.2.isPublic = false := by
  obtain ⟨all, derived, rest⟩ := exists_of_bind answered
  obtain rfl : ofKind .peopleSearch all = records := Except.ok.inj rest
  obtain ⟨-, built⟩ := built_of_mem_ofKind (d := .peopleSearch) rfl derived mem
  have valid : PeopleSearch.Valid false e.2 := (valid_of_built built).2.2
  exact valid.meant

/-- A public search is the profile of the id that is stored for it, one of those configured. -/
lemma built_of_publicPeopleSearch {p : PeopleSearch}
    (answered : t.answer store .publicPeopleSearch = .ok (some p)) :
    (store.answer (.value Schema.peopleSearchPublicProfile none) = .text p.id
        ∨ store.answer (.value Schema.peopleSearchPublicProfile none) = .choice p.id)
      ∧ p.id ∈ store.answer (.profileIds .peopleSearch)
      ∧ t.built store .peopleSearchPublic p.id = .ok ⟨.peopleSearch, p⟩ := by
  obtain ⟨isOpen, -, rest⟩ := exists_of_bind answered
  cases isOpen with
  | false => cases rest
  | true =>
      obtain ⟨id, named, rest⟩ := exists_of_bind rest
      obtain ⟨all, derived, rest⟩ := exists_of_bind rest
      have found : (ofKind .peopleSearch all).get? id = some p := Except.ok.inj rest
      obtain ⟨configured, built⟩ :=
        built_of_mem_ofKind rfl derived (OrderedMap.mem_of_get? found)
      obtain rfl : p.id = id := (valid_of_built built).2.1
      have contract : Meets store (t.plain.Finds store Schema.peopleSearchPublicProfile .text)
          (ConfigError.CodeIn []) (t.plain.text Schema.peopleSearchPublicProfile) :=
        t.plain.meets_read _ rfl
      exact ⟨(contract.yields named).stored_text rfl, configured, built⟩

/-- Stores that differ only in whom people searches apply to have the same public search. -/
lemma answer_publicPeopleSearch_congr (agree : store.AgreeButMatch store') :
    t.answer store .publicPeopleSearch = t.answer store' .publicPeopleSearch := by
  have same : ∀ {α : Type} {x : Read α}, AsksOnly (fun q => ¬ q.AboutMatch) x →
      x.result store = x.result store' := fun bound =>
    congrArg Outcome.value (bound.carryOut_congr agree)
  -- the public search rests on three reads, and none of them asks for that setting
  have isOpen := same (t.plain.asksOnly_butMatch
    (x := Schema.peopleSearchEnablePublic) (by decide) .flag)
  have named := same (t.plain.asksOnly_butMatch
    (x := Schema.peopleSearchPublicProfile) (by decide) .text)
  have built := same (t.asksOnly_buildProfiles (d := .peopleSearchPublic)
    (by simp [Question.AboutMatch]) fun id => (t.reader (some id)).asksOnly_buildPublic)
  show (do
    if !(← (t.plain.flag Schema.peopleSearchEnablePublic).result store) then return none
    else
      let id ← (t.plain.text Schema.peopleSearchPublicProfile).result store
      let all ← (t.buildProfiles .peopleSearchPublic).result store
      return (ofKind .peopleSearch all).get? id) = _
  rw [Reader.flag, Reader.text, isOpen, named, built]
  rfl

/-- After any run of requests, no search that is handed out to users is public. The public search,
where there is one, is public, applies to nobody in particular, and is the public profile of the id
that is stored for it, which is one of those configured. And over a store that differs only in whom
people searches apply to, after any run of requests there, it is the same, or fails alike. -/
theorem peopleSearch_separated (store : Store) (requests : List Request) :
    let served := fun r : Request => (t.serve store (t.memoryAfter store .empty requests) r).value.1
    (∀ records : OrderedMap String PeopleSearch, served (.profilesOf .peopleSearch) = .ok records →
        ∀ e ∈ records.entries, e.2.isPublic = false)
      ∧ (∀ p : PeopleSearch, served .publicPeopleSearch = .ok (some p) →
          p.isPublic = true ∧ p.appliesTo = []
            ∧ (store.answer (.value Schema.peopleSearchPublicProfile none) = .text p.id
              ∨ store.answer (.value Schema.peopleSearchPublicProfile none) = .choice p.id)
            ∧ p.id ∈ store.answer (.profileIds .peopleSearch)
            ∧ t.built store .peopleSearchPublic p.id = .ok ⟨.peopleSearch, p⟩)
      ∧ ∀ (store' : Store) (requests' : List Request), store.AgreeButMatch store' →
          served .publicPeopleSearch
            = (t.serve store' (t.memoryAfter store' .empty requests')
                .publicPeopleSearch).value.1 := by
  intro served
  have answered : ∀ r, served r = t.answer store r :=
    fun r => t.serve_memoryAfter_eq_answer store requests r
  refine ⟨fun records done e mem => ?_, fun p done => ?_, fun store' requests' agree => ?_⟩
  · rw [answered] at done
    exact t.isPublic_of_profilesOf done mem
  · rw [answered] at done
    obtain ⟨stored, configured, built⟩ := t.built_of_publicPeopleSearch done
    have valid : PeopleSearch.Valid true p := (valid_of_built built).2.2
    exact ⟨valid.meant, valid.anyone valid.meant, stored, configured, built⟩
  -- both runs are answered without their memories, and those answers agree
  · calc served .publicPeopleSearch
        = t.answer store .publicPeopleSearch := answered _
      _ = t.answer store' .publicPeopleSearch := t.answer_publicPeopleSearch_congr agree
      _ = _ := (t.serve_memoryAfter_eq_answer store' requests' .publicPeopleSearch).symm

/-- A public search at the front desk, where the setting of whom the users' search applies to does
not have the right syntax, so that users get an error. -/
theorem peopleSearch_separated_front_desk :
    let steps : List Snapshot.Step :=
      [.value Schema.peopleSearchEnablePublic (.flag true),
        .value Schema.peopleSearchPublicProfile (.text "front"),
        .profileValue Schema.peopleSearchLimit "front" (.number 20)]
    let store := (steps.foldl Snapshot.apply .empty).store
    let broken :=
      store.answering (.value Schema.peopleSearchQueryMatch (some "front")) (.text "everyone")
    let t : Tenant := ⟨"example.org", .default, fun _ _ => 0⟩
    let desk : PeopleSearch := ⟨"front", true, [], [], [], 20⟩
    store.AgreeButMatch broken
      ∧ (t.serve broken (t.memoryAfter broken .empty [])
          (.profilesOf .peopleSearch)).value.1.toOption = none
      ∧ (t.serve broken (t.memoryAfter broken .empty [.profilesOf .peopleSearch])
          .publicPeopleSearch).value.1 = .ok (some desk)
      ∧ desk.isPublic = true ∧ desk.appliesTo = [] := by
  intro steps store broken t desk
  have agree : store.AgreeButMatch broken := store.agreeButMatch_answering _ _
  have refused : (t.serve broken (t.memoryAfter broken .empty [])
      (.profilesOf .peopleSearch)).value.1.toOption = none := by
    rw [t.serve_memoryAfter_eq_answer]
    rfl
  have handedOut : (t.serve store (t.memoryAfter store .empty []) .publicPeopleSearch).value.1
      = .ok (some desk) := by
    rw [t.serve_memoryAfter_eq_answer]
    rfl
  obtain ⟨-, separated, same⟩ := t.peopleSearch_separated store []
  obtain ⟨isPublic, anyone, -⟩ := separated desk handedOut
  have unmoved := (same broken [.profilesOf .peopleSearch] agree).symm.trans handedOut
  exact ⟨agree, refused, unmoved, isPublic, anyone⟩

end Tenant

end TenantSettings

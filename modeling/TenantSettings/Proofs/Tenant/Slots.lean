import TenantSettings.Proofs.OrderedMap
import TenantSettings.Tenant.Slot

/-!
# The first success wins

Calls on slots one after another, each with an initializer of its own. Under every key the first
initializer that succeeds decides: it is the last one to run there, and from then on every call is
answered with its value. Calls under other keys make no difference.

* `Slots.computed_eq_card`: the count of the values, among slots that are empty or filled.
* `Attempt`: a call, by its key, by what its initializer does and by what that yields.
* `Attempt.successes`: the values that the initializers of a key yield; `Attempt.due`: the calls
  that no success precedes under their key.
* `Attempt.serveAll_eq`: a run on slots of any kind, from what one call does to them.
* `Slots.serveAll_firstSuccess`: a run on slots by key, its answers and what is done to get them;
  a single slot does what the slot of one key does.
-/

namespace TenantSettings

/-! ### Counts -/

namespace Slots

variable {κ ν : Type} [DecidableEq κ]

lemma isSome_get?_filterValues_iff (s : Slots κ ν) (k : κ) :
    ((s.slots.filterValues (·.isFilled)).get? k).isSome ↔ (s.slot k).isFilled := by
  have filtered : (s.slots.filterValues (·.isFilled)).get? k
      = (s.slots.get? k).filter (·.isFilled) := OrderedMap.lookup_filter s.slots.nodup _ k
  rw [filtered, slot]
  cases s.slots.get? k with
  | none => simp [Slot.empty, Slot.isFilled]
  | some slot => simp [Option.filter, Option.isSome_ite]

/-- As many values are there as there are keys whose slot is filled; empty slots do not count. -/
lemma computed_eq_card (s : Slots κ ν) {keys : Finset κ}
    (h : ∀ k, (s.slot k).isFilled ↔ k ∈ keys) : s.computed = keys.card :=
  OrderedMap.size_eq_card _ fun k => (s.isSome_get?_filterValues_iff k).trans (h k)

/-- Where no slot is emptied, no values are lost. -/
lemma computed_le {s s' : Slots κ ν} (h : ∀ k, (s.slot k).isFilled → (s'.slot k).isFilled) :
    s.computed ≤ s'.computed :=
  OrderedMap.size_le fun k => by
    rw [isSome_get?_filterValues_iff, isSome_get?_filterValues_iff]
    exact h k

end Slots

/-! ### Calls and the calls before them -/

/-- A call for a value under a key: what its initializer does, and what it yields. -/
structure Attempt (m : Type → Type) (κ ε ν : Type) where
  key : κ
  effect : m Unit
  outcome : Except ε ν

variable {m : Type → Type} {κ ε ν : Type}

namespace Attempt

/-- Calls, each with those before it. -/
def histories (calls : List (Attempt m κ ε ν)) :
    List (List (Attempt m κ ε ν) × Attempt m κ ε ν) :=
  calls.zipIdx.map fun p => (calls.take p.2, p.1)

lemma histories_concat (calls : List (Attempt m κ ε ν)) (a : Attempt m κ ε ν) :
    histories (calls ++ [a]) = histories calls ++ [(calls, a)] := by
  have before : calls.zipIdx.map (fun p => ((calls ++ [a]).take p.2, p.1)) = histories calls := by
    refine List.map_congr_left fun p mem => ?_
    have inside : p.2 < calls.length := by simpa using List.snd_lt_of_mem_zipIdx mem
    rw [List.take_append_of_le_length inside.le]
  rw [histories, List.zipIdx_append, List.map_append, before]
  simp

/-- The calls up to one of them are those before it, and the call. -/
lemma take_of_getElem? {calls : List (Attempt m κ ε ν)} {i : Nat} {a : Attempt m κ ε ν}
    (there : calls[i]? = some a) : calls.take (i + 1) = calls.take i ++ [a] := by
  rw [List.take_add_one, there]
  rfl

variable [DecidableEq κ]

/-- The values that the initializers of a key yield, in order, failures left out. -/
def successes (calls : List (Attempt m κ ε ν)) (k : κ) : List ν :=
  (calls.filter (·.key = k)).filterMap (·.outcome.toOption)

/-- What is answered to a call after some others: the first success under its key, its own
included, or else its own failure. -/
def answer (past : List (Attempt m κ ε ν)) (a : Attempt m κ ε ν) : Except ε ν :=
  (successes (past ++ [a]) a.key).head?.elim a.outcome .ok

/-- The answers to some calls. -/
def answers (calls : List (Attempt m κ ε ν)) : List (Except ε ν) :=
  (histories calls).map fun p => answer p.1 p.2

/-- The calls that no success precedes under their key. -/
def due (calls : List (Attempt m κ ε ν)) : List (Attempt m κ ε ν) :=
  ((histories calls).filter fun p => (successes p.1 p.2.key).isEmpty).map Prod.snd

section

variable (calls : List (Attempt m κ ε ν)) (a : Attempt m κ ε ν) (k : κ)

lemma successes_concat :
    successes (calls ++ [a]) k
      = successes calls k ++ if a.key = k then a.outcome.toOption.toList else [] := by
  rw [successes, List.filter_append, List.filterMap_append, successes, List.append_cancel_left_eq]
  by_cases here : a.key = k
  · cases found : a.outcome.toOption <;> simp [here, found]
  · simp [here]

/-- Only calls under a key count for it. -/
lemma successes_filter : successes (calls.filter (·.key = k)) k = successes calls k := by
  simp [successes]

lemma due_concat :
    due (calls ++ [a]) = due calls ++ if (successes calls a.key).isEmpty then [a] else [] := by
  rw [due, histories_concat, List.filter_append, List.map_append, due]
  split <;> next fresh => simp [fresh]

lemma answers_concat : answers (calls ++ [a]) = answers calls ++ [answer calls a] := by
  simp [answers, histories_concat]

lemma length_answers : (answers calls).length = calls.length := by
  simp [answers, histories]

/-- Under one key, those calls are due that are due among all. -/
lemma due_filter : due (calls.filter (·.key = k)) = (due calls).filter (·.key = k) := by
  induction calls using List.reverseRecOn with
  | nil => rfl
  | append_singleton calls a ih =>
      rw [due_concat, List.filter_append, List.filter_append, ← ih]
      by_cases here : a.key = k
      · subst here
        have own : [a].filter (·.key = a.key) = [a] := by simp
        rw [own, due_concat, successes_filter]
        split <;> simp
      · split <;> simp [here]

/-- Under one key, calls are answered as they are among all. -/
lemma answers_filter :
    answers (calls.filter (·.key = k))
      = ((calls.zip (answers calls)).filter (·.1.key = k)).map Prod.snd := by
  induction calls using List.reverseRecOn with
  | nil => rfl
  | append_singleton calls a ih =>
      rw [answers_concat, List.zip_append (length_answers calls).symm, List.filter_append,
        List.filter_append, List.map_append, ← ih]
      by_cases here : a.key = k
      · subst here
        have alike : answer (calls.filter (·.key = a.key)) a = answer calls a := by
          rw [answer, answer, successes_concat, successes_concat, successes_filter]
        simp [answers_concat, alike]
      · simp [here]

/-- Each call is answered from the calls up to it. -/
lemma getElem?_answers {calls : List (Attempt m κ ε ν)} {i : Nat} {a : Attempt m κ ε ν}
    (there : calls[i]? = some a) :
    (answers calls)[i]?
      = some ((successes (calls.take (i + 1)) a.key).head?.elim a.outcome .ok) := by
  simp [answers, histories, there, answer, take_of_getElem? there]

/-- A call that no success is known for, up to itself, has failed. -/
lemma exists_error {calls : List (Attempt m κ ε ν)} {i : Nat} {a : Attempt m κ ε ν}
    (there : calls[i]? = some a) (none : successes (calls.take (i + 1)) a.key = []) :
    ∃ e, a.outcome = .error e := by
  rw [take_of_getElem? there, successes_concat, if_pos rfl, List.append_eq_nil_iff] at none
  cases outcome : a.outcome with
  | error e => exact ⟨e, rfl⟩
  | ok v =>
      rw [outcome] at none
      cases none.2

/-- There is a success under the keys of the initializers that yield a value. -/
lemma isSome_head?_successes_iff :
    ((successes calls k).head?).isSome
      ↔ k ∈ ((calls.filter (·.outcome.isOk)).map (·.key)).toFinset := by
  have fails (o : Except ε ν) : o.toOption = none ↔ o.isOk = false := by
    cases o <;> simp [Except.toOption, Except.isOk, Except.toBool]
  rw [List.isSome_head?, successes]
  simp [fails, and_comm]

end

/-! ### Runs -/

variable [Monad m]

/-- The initializer of a call. -/
def init (a : Attempt m κ ε ν) : m (Except ε ν) := do
  a.effect
  return a.outcome

/-- Some calls one after another: the answers, and the state that the calls leave. -/
def serveAll {σ : Type} (serve : σ → Attempt m κ ε ν → m (Except ε ν × σ)) (s : σ)
    (calls : List (Attempt m κ ε ν)) : m (List (Except ε ν) × σ) :=
  calls.foldlM (fun done a => do
    let (r, s) ← serve done.2 a
    return (done.1 ++ [r], s)) ([], s)

/-- What one call does, from what is kept of the calls before it: it runs its initializer unless
there was a success before, gives the answer, and hands on what is to be kept. -/
def ServesNext {σ : Type} (serve : σ → Attempt m κ ε ν → m (Except ε ν × σ))
    (Kept : σ → List (Attempt m κ ε ν) → Prop) (past : List (Attempt m κ ε ν))
    (a : Attempt m κ ε ν) : Prop :=
  ∀ s, Kept s past → ∃ s', Kept s' (past ++ [a]) ∧ serve s a
    = ((if (successes past a.key).isEmpty then [a] else []).forM effect
        >>= fun _ => pure (answer past a, s'))

/-- If every call does so, then a run does. -/
lemma serveAll_eq [LawfulMonad m] {σ : Type} (serve : σ → Attempt m κ ε ν → m (Except ε ν × σ))
    (Kept : σ → List (Attempt m κ ε ν) → Prop) {s : σ} (start : Kept s [])
    {calls : List (Attempt m κ ε ν)}
    (next : ∀ a ∈ calls, ∀ past, ServesNext serve Kept past a) :
    ∃ s', Kept s' calls
      ∧ serveAll serve s calls = ((due calls).forM effect >>= fun _ => pure (answers calls, s')) := by
  induction calls using List.reverseRecOn with
  | nil => exact ⟨s, start, by simp [serveAll, due, answers, histories]⟩
  | append_singleton calls a ih =>
      obtain ⟨middle, kept, before⟩ := ih fun b mem => next b (List.mem_append_left _ mem)
      obtain ⟨last, kept', now⟩ := next a (by simp) calls middle kept
      refine ⟨last, kept', ?_⟩
      rw [serveAll] at before ⊢
      rw [List.foldlM_append, before, due_concat, answers_concat]
      simp [now]

end Attempt

open Attempt

/-! ### Single slots -/

section

variable [DecidableEq κ] [Monad m] [LawfulMonad m]

namespace Slot

/-- A call on a single slot, whatever its key. -/
def serve (s : Slot ν) (a : Attempt m κ ε ν) : m (Except ε ν × Slot ν) := s.getOrInit a.init

/-- A slot has the first success under a key. -/
def Keeps (k : κ) (s : Slot ν) (past : List (Attempt m κ ε ν)) : Prop :=
  s.value? = (successes past k).head?

lemma servesNext (past : List (Attempt m κ ε ν)) (a : Attempt m κ ε ν) :
    ServesNext serve (Keeps a.key) past a := by
  intro s kept
  rw [Keeps] at kept
  rw [serve, getOrInit, answer, successes_concat, if_pos rfl]
  cases before : successes past a.key with
  | cons v vs =>
      refine ⟨s, ?_, ?_⟩
      · rw [Keeps, successes_concat, kept, before]
        rfl
      · simp [kept, before]
  | nil =>
      refine ⟨⟨a.outcome.toOption⟩, ?_, ?_⟩
      · rw [Keeps, successes_concat, before, if_pos rfl]
        cases a.outcome <;> rfl
      · rw [kept, before]
        cases found : a.outcome <;> simp [init, found, Except.toOption, empty]

end Slot

/-! ### Slots by key -/

namespace Slots

/-- A call on the slot of its key. -/
def serve (s : Slots κ ν) (a : Attempt m κ ε ν) : m (Except ε ν × Slots κ ν) :=
  s.getOrInit a.key a.init

/-- Every key has the first success under it. -/
def Keeps (s : Slots κ ν) (past : List (Attempt m κ ε ν)) : Prop :=
  ∀ k, (s.slot k).Keeps k past

lemma servesNext (past : List (Attempt m κ ε ν)) (a : Attempt m κ ε ν) :
    ServesNext serve Keeps past a := by
  intro s kept
  obtain ⟨slot, kept', now⟩ := Slot.servesNext past a (s.slot a.key) (kept a.key)
  refine ⟨s.put a.key slot, fun k => ?_, ?_⟩
  · rw [slot_put]
    split
    · next here => exact here ▸ kept'
    · next other =>
        rw [Slot.Keeps, successes_concat, if_neg (Ne.symm other), List.append_nil]
        exact kept k
  · show (s.slot a.key).serve a >>= (fun p => pure (p.1, s.put a.key p.2)) = _
    rw [now]
    simp

/-- Of calls one after another, each with an initializer of its own, those run their initializers,
in order, that no success precedes under their key. Each call is answered with the value of the
first initializer under its key, up to its own, that succeeds, or else with its own error; and there
is a value for each key under which one succeeds. The calls under one key do the same on a single
slot as they do among all others, to the same end. -/
theorem serveAll_firstSuccess (calls : List (Attempt m κ ε ν)) :
    ∃ (answers : List (Except ε ν)) (slots : Slots κ ν),
      serveAll serve (empty : Slots κ ν) calls
          = ((due calls).forM effect >>= fun _ => pure (answers, slots))
        ∧ answers.length = calls.length
        ∧ (∀ i a, calls[i]? = some a →
            (∀ v, (successes (calls.take (i + 1)) a.key).head? = some v →
                answers[i]? = some (.ok v))
              ∧ (successes (calls.take (i + 1)) a.key = [] →
                  ∃ e, a.outcome = .error e ∧ answers[i]? = some (.error e)))
        ∧ slots.computed = ((calls.filter (·.outcome.isOk)).map (·.key)).toFinset.card
        ∧ ∀ k, serveAll Slot.serve (Slot.empty : Slot ν) (calls.filter (·.key = k))
            = (((due calls).filter (·.key = k)).forM effect
                >>= fun _ => pure (((calls.zip answers).filter (·.1.key = k)).map Prod.snd,
                  slots.slot k)) := by
  -- the invariant of the run: under every key is kept what first succeeded there
  have fresh : (empty : Slots κ ν).Keeps ([] : List (Attempt m κ ε ν)) := fun k => rfl
  obtain ⟨slots, kept, run⟩ :=
    serveAll_eq serve Keeps fresh fun a (_ : a ∈ calls) past => servesNext past a
  refine ⟨answers calls, slots, run, length_answers calls, fun i a there => ⟨fun v first => ?_,
    fun failing => ?_⟩, ?_, fun k => ?_⟩
  · rw [getElem?_answers there, first]
    rfl
  · obtain ⟨e, failed⟩ := exists_error there failing
    exact ⟨e, failed, by rw [getElem?_answers there, failing, failed]; rfl⟩
  · refine slots.computed_eq_card fun k => ?_
    rw [← isSome_head?_successes_iff, ← kept k]
    rfl
  -- the calls under one key are a run on a single slot, with the invariant of that key alone
  · have next : ∀ a ∈ calls.filter (·.key = k), ∀ past,
        ServesNext Slot.serve (Slot.Keeps k) past a := by
      intro a mem past
      have here : a.key = k := by simpa using (List.mem_filter.mp mem).2
      exact here ▸ Slot.servesNext past a
    obtain ⟨slot, keptAt, runAt⟩ := serveAll_eq Slot.serve (Slot.Keeps k) (s := .empty) rfl next
    -- both ends keep the first success under the key
    have same : slot = slots.slot k := by
      have values : slot.value? = (slots.slot k).value? := by
        rw [keptAt, kept k, successes_filter]
      cases slot
      exact congrArg Slot.mk values
    rw [runAt, due_filter, answers_filter, same]

/-- Two keys, one of them with a failure before its first success. -/
theorem serveAll_firstSuccess_retried :
    let note (n : Nat) : StateM (List Nat) Unit := modify (· ++ [n])
    let calls : List (Attempt (StateM (List Nat)) String String Nat) :=
      [⟨"a", note 0, .error "late"⟩, ⟨"b", note 1, .ok 5⟩, ⟨"a", note 2, .ok 7⟩,
        ⟨"a", note 3, .ok 8⟩, ⟨"b", note 4, .error "gone"⟩]
    ∃ slots : Slots String Nat, slots.computed = 2
      ∧ (serveAll serve empty calls).run []
          = (([.error "late", .ok 5, .ok 7, .ok 7, .ok 5], slots), [0, 1, 2]) := by
  intro note calls
  obtain ⟨answers, slots, run, length, each, computed, -⟩ := serveAll_firstSuccess calls
  obtain ⟨e, failed, first⟩ := (each 0 _ rfl).2 (by decide)
  have known : answers = [.error "late", .ok 5, .ok 7, .ok 7, .ok 5] := by
    refine List.ext_getElem? fun i => ?_
    rcases i with _ | _ | _ | _ | _ | i
    · cases failed
      exact first
    · exact (each 1 _ rfl).1 5 (by decide)
    · exact (each 2 _ rfl).1 7 (by decide)
    · exact (each 3 _ rfl).1 7 (by decide)
    · exact (each 4 _ rfl).1 5 (by decide)
    · exact List.getElem?_eq_none (by rw [length]; exact Nat.le_add_left _ _)
  refine ⟨slots, computed.trans (by decide), ?_⟩
  rw [run, known]
  rfl

end Slots

end

end TenantSettings

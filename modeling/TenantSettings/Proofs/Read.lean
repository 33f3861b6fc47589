import Mathlib.Tactic.Lemma
import TenantSettings.Inquiry

/-!
# Results of reads

What a read comes to over a store, its questions and events left aside.  Results compose as the
reads do, so that a read is followed step by step without its trace.

* `Read.result`: the result of a read over a store.
* `Read.result_bind`, `Read.result_mapM`: the result of a sequence of reads.
* `Read.result_forIn_yield`: a loop that only logs comes to nothing; `Read.carryOut_forIn_yield` for
  what it logs.
-/

namespace TenantSettings.Read

variable {α β : Type} (store : Store)

/-- The result of a read over a store. -/
def result (x : Read α) (store : Store) : Except ConfigError α := (x.carryOut store).value

@[simp] lemma result_pure (a : α) : (pure a : Read α).result store = pure a := rfl

@[simp] lemma result_ask (q : Question) : (ask q).result store = pure (store.answer q) := rfl

@[simp] lemma result_tell (e : Event) : (tell e).result store = pure () := rfl

@[simp] lemma result_ofExcept (r : Except ConfigError α) : (ofExcept r).result store = r := rfl

/-- An inquiry that cannot fail comes to its value. -/
@[simp] lemma result_lift (x : Inquiry α) :
    Read.result (ExceptT.lift x) store = .ok (x.run store).value := by
  rw [result, carryOut, ExceptT.run_lift, map_eq_pure_bind, Inquiry.run_bind]
  rfl

/-- One read after another: the second only counts if the first succeeds. -/
@[simp] lemma result_bind (x : Read α) (f : α → Read β) :
    Read.result (x >>= f) store = x.result store >>= fun a => (f a).result store := by
  rw [result, carryOut_bind, Outcome.followedBy, result]
  cases (x.carryOut store).value <;> rfl

/-- The image of what is read. -/
@[simp] lemma result_map (f : α → β) (x : Read α) :
    Read.result (f <$> x) store = f <$> x.result store := by
  rw [map_eq_pure_bind, map_eq_pure_bind, result_bind]
  rfl

/-- Logging a failure does not change it. -/
@[simp] lemma result_tellError (event : ConfigError → Event) (x : Read α) :
    (x.tellError event).result store = x.result store := by
  rw [result, carryOut, tellError, ExceptT.run_mk, Inquiry.run_bind, result, carryOut]
  rcases x.run.run store with ⟨value, asked, events⟩
  cases value <;> rfl

/-- A failure under another name. -/
@[simp] lemma result_mapError (f : ConfigError → ConfigError) (x : Read α) :
    (x.mapError f).result store = (x.result store).mapError f := by
  rw [result, carryOut, mapError, ExceptT.run_mk, Inquiry.run_bind]
  rfl

/-- Reads along a list: their results along the list. -/
@[simp] lemma result_mapM (f : α → Read β) (l : List α) :
    Read.result (l.mapM f) store = l.mapM fun a => (f a).result store := by
  induction l with
  | nil => rfl
  | cons a rest ih => simp [ih]

/-- A loop whose every round goes on with nothing comes to nothing. -/
lemma result_forIn_yield (l : List α) (f : α → PUnit → Read (ForInStep PUnit))
    (h : ∀ a, (f a ⟨⟩).result store = .ok (.yield ⟨⟩)) :
    Read.result (forIn l ⟨⟩ f) store = .ok ⟨⟩ := by
  induction l with
  | nil => rfl
  | cons a rest ih =>
      rw [List.forIn_cons, result_bind, h]
      exact ih

/-- A loop whose every round only logs comes to all that it logs. -/
lemma carryOut_forIn_yield (l : List α) {f : α → PUnit → Read (ForInStep PUnit)}
    (events : α → List Event)
    (h : ∀ a, (f a ⟨⟩).carryOut store = ⟨.ok (.yield ⟨⟩), [], events a⟩) :
    Read.carryOut (forIn l ⟨⟩ f) store = ⟨.ok ⟨⟩, [], l.flatMap events⟩ := by
  induction l with
  | nil => rfl
  | cons a rest ih =>
      rw [List.forIn_cons, carryOut_bind, h]
      dsimp only [Outcome.followedBy]
      rw [ih]
      rfl

end TenantSettings.Read

import TenantSettings.Error
import TenantSettings.Event
import TenantSettings.Store.Basic

/-!
# Inquiries

A computation that asks a store questions and logs events, as a tree of what it does.  Run over a
store it yields its value together with the questions it asked and the events it logged, in order.

* `Inquiry.run_bind`: one inquiry after another.
* `Inquiry.run_congr`: an inquiry is determined by the answers to the questions it asks.
-/

namespace TenantSettings

/-- A computation that asks a store and logs events. -/
inductive Inquiry (α : Type) where
  | done (a : α)
  | ask (q : Question) (next : q.Answer → Inquiry α)
  | log (e : Event) (next : Inquiry α)

/-- What comes of an inquiry: its value, the questions it asked and the events it logged. -/
structure Outcome (α : Type) where
  value : α
  asked : List Question
  events : List Event

/-- The outcome of what may fail, followed by what is done with its value. -/
def Outcome.followedBy {ε α β : Type} (first : Outcome (Except ε α))
    (next : α → Outcome (Except ε β)) : Outcome (Except ε β) :=
  match first.value with
  | .ok a =>
    let second := next a
    ⟨second.value, first.asked ++ second.asked, first.events ++ second.events⟩
  | .error e => ⟨.error e, first.asked, first.events⟩

namespace Inquiry

variable {α β : Type}

/-- One inquiry after another. -/
def bind : Inquiry α → (α → Inquiry β) → Inquiry β
  | done a, f => f a
  | ask q next, f => ask q fun answer => (next answer).bind f
  | log e next, f => log e (next.bind f)

instance : Monad Inquiry where
  pure := done
  bind := bind

/-- An inquiry carried out over a store. -/
def run (store : Store) : Inquiry α → Outcome α
  | done a => ⟨a, [], []⟩
  | ask q next =>
    let rest := (next (store.answer q)).run store
    { rest with asked := q :: rest.asked }
  | log e next =>
    let rest := next.run store
    { rest with events := e :: rest.events }

/-- One inquiry after another, over a store. -/
theorem run_bind (store : Store) (x : Inquiry α) (f : α → Inquiry β) :
    (x >>= f).run store =
      let first := x.run store
      let second := (f first.value).run store
      ⟨second.value, first.asked ++ second.asked, first.events ++ second.events⟩ := by
  induction x with
  | done a => rfl
  | ask q next ih =>
    have h := ih (store.answer q)
    simp only [Bind.bind, bind, run] at h ⊢
    rw [h]
    rfl
  | log e next ih =>
    simp only [Bind.bind, bind, run] at ih ⊢
    rw [ih]
    rfl

theorem run_pure (store : Store) (a : α) : (pure a : Inquiry α).run store = ⟨a, [], []⟩ := rfl

/-- Stores that give the same answers to the questions an inquiry asks yield the same outcome. -/
theorem run_congr {s t : Store} (x : Inquiry α)
    (h : ∀ q ∈ (x.run s).asked, s.answer q = t.answer q) : x.run s = x.run t := by
  induction x with
  | done a => rfl
  | ask q next ih =>
    have hq : s.answer q = t.answer q := h q (by simp [run])
    have hr := ih (s.answer q) fun r hr => h r (by simp [run, hr])
    simp only [run]
    rw [hr, hq]
  | log e next ih => simp only [run, ih h]

theorem bind_done (x : Inquiry α) : x.bind done = x := by
  induction x with
  | done a => rfl
  | ask q next ih => exact congrArg (ask q) (funext ih)
  | log e next ih => exact congrArg (log e) ih

theorem bind_bind {γ : Type} (x : Inquiry α) (f : α → Inquiry β) (g : β → Inquiry γ) :
    (x.bind f).bind g = x.bind fun a => (f a).bind g := by
  induction x with
  | done a => rfl
  | ask q next ih => exact congrArg (ask q) (funext ih)
  | log e next ih => exact congrArg (log e) ih

instance : LawfulMonad Inquiry :=
  LawfulMonad.mk' Inquiry bind_done (fun _ _ => rfl) bind_bind

/-- The inquiry that logs one event. -/
def tell (e : Event) : Inquiry Unit := log e (done ())

end Inquiry

/-! ### Reads -/

/-- An inquiry that may fail. -/
abbrev Read := ExceptT ConfigError Inquiry

namespace Read

variable {α β : Type}

/-- The answer of the store to a question. -/
def ask (q : Question) : Read q.Answer := ExceptT.lift (Inquiry.ask q .done)

/-- The read that logs one event. -/
def tell (e : Event) : Read Unit := ExceptT.lift (Inquiry.tell e)

/-- A result that asks nothing. -/
def ofExcept (r : Except ConfigError α) : Read α := ExceptT.mk (pure r)

/-- The failure of a read. -/
def fail (e : ConfigError) : Read α := ofExcept (.error e)

/-- A read carried out over a store. -/
def carryOut (x : Read α) (store : Store) : Outcome (Except ConfigError α) := x.run.run store

theorem carryOut_pure (store : Store) (a : α) :
    (pure a : Read α).carryOut store = ⟨.ok a, [], []⟩ := rfl

/-- One read after another, over a store. -/
theorem carryOut_bind (store : Store) (x : Read α) (f : α → Read β) :
    Read.carryOut (x >>= f) store =
      (x.carryOut store).followedBy fun a => (f a).carryOut store := by
  rw [carryOut, ExceptT.run_bind, Inquiry.run_bind]
  unfold Outcome.followedBy carryOut
  rcases x.run.run store with ⟨value, asked, events⟩
  cases value <;> simp [Inquiry.run_pure]

theorem carryOut_ask (store : Store) (q : Question) :
    (ask q).carryOut store = ⟨.ok (store.answer q), [q], []⟩ := rfl

theorem carryOut_tell (store : Store) (e : Event) :
    (tell e).carryOut store = ⟨.ok (), [], [e]⟩ := rfl

theorem carryOut_ofExcept (store : Store) (r : Except ConfigError α) :
    (ofExcept r).carryOut store = ⟨r, [], []⟩ := rfl

/-- The read that logs some events, one after another. -/
def tellAll : List Event → Read Unit
  | [] => pure ()
  | e :: rest => do
    tell e
    tellAll rest

theorem carryOut_tellAll (store : Store) (events : List Event) :
    (tellAll events).carryOut store = ⟨.ok (), [], events⟩ := by
  induction events with
  | nil => rfl
  | cons e rest ih =>
    rw [tellAll, carryOut_bind, carryOut_tell]
    simp [Outcome.followedBy, ih]

/-- The read that logs an event when it fails. -/
def tellError (event : ConfigError → Event) (x : Read α) : Read α := ExceptT.mk do
  match ← x.run with
  | .ok a => return .ok a
  | .error e => do
    Inquiry.tell (event e)
    return .error e

/-- The read that fails with another error. -/
def mapError (f : ConfigError → ConfigError) (x : Read α) : Read α := ExceptT.mk do
  return (← x.run).mapError f

end Read

end TenantSettings

import TenantSettings.Profile.Definition
import TenantSettings.Profile.PasswordPolicy
import TenantSettings.Properties.Basic
import TenantSettings.SecurityKey
import TenantSettings.Tenant.Slot

/-!
# Tenants

A tenant is the configuration of one domain.  What is derived from the store is computed once and
kept in a memory; a call on a tenant may fill the memory, and what it filled stays also when the
call fails.

* `Tenant.create`: the tenant of a domain, if its properties are sound.
* `Call.cached`: a call whose value is kept, by `Call.carryOut_cached_of_some` without asking again.
-/

namespace TenantSettings

/-- The configuration of one domain. The words are where generated keys are drawn from: one stream
for each draw. -/
structure Tenant where
  domain : String
  properties : Properties
  words : Nat → Nat → Nat

/-- What a tenant has derived so far, the key text it has generated, and how often it has generated
one. -/
structure Memory where
  directories : Slot (OrderedMap String Directory)
  key : Slot SecurityKey
  keyText : Slot String
  policies : Slots (String × Locale) PasswordPolicy
  bundles : Slots String (Option (OrderedMap Locale String))
  profiles : Slots Definition (OrderedMap String Profile)
  digest : Slot String
  draws : Nat

namespace Memory

/-- The memory of a tenant that was not asked anything yet. -/
def empty : Memory := ⟨.empty, .empty, .empty, .empty, .empty, .empty, .empty, 0⟩

/-- How much a memory holds: policies, bundle keys, profile maps, and whether there is a key. -/
structure Stats where
  policies : Nat
  bundles : Nat
  profiles : Nat
  key : Bool
deriving DecidableEq, Repr

/-- How much a memory holds. -/
def stats (m : Memory) : Stats :=
  ⟨m.policies.computed, m.bundles.computed, m.profiles.computed, m.key.isFilled⟩

/-- A description of how much a memory holds. -/
def Stats.describe (s : Stats) : String :=
  "CacheStats \x7b password_policies: " ++ toString s.policies ++ ", localized_text: "
    ++ toString s.bundles ++ ", profile_maps: " ++ toString s.profiles ++ ", security_key: "
    ++ Properties.flagText s.key ++ " \x7d"

end Memory

/-- A call on a tenant: an inquiry that may fail and may fill the memory. -/
abbrev Call := ExceptT ConfigError (StateT Memory Inquiry)

namespace Call

variable {α β κ : Type} [DecidableEq κ]

/-- A read as a call; it leaves the memory as it is. -/
def ofRead (x : Read α) : Call α := ExceptT.mk (StateT.lift x.run)

instance : MonadLift Read Call := ⟨ofRead⟩

/-- The call that logs one event. -/
def tell (e : Event) : Call Unit := ofRead (Read.tell e)

/-- The failure of a call. -/
def fail (e : ConfigError) : Call α := ofRead (Read.fail e)

/-- A call whose value is kept in a slot of the memory. -/
def cached (get : Memory → Slot α) (set : Slot α → Memory → Memory) (init : Call α) : Call α :=
  ExceptT.mk do
    let (result, slot) ← (get (← MonadState.get)).getOrInit init.run
    modify (set slot)
    return result

/-- A call whose value is kept in the slot of a key. -/
def cachedAt (get : Memory → Slots κ α) (set : Slots κ α → Memory → Memory) (k : κ)
    (init : Call α) : Call α :=
  ExceptT.mk do
    let (result, slots) ← (get (← MonadState.get)).getOrInit k init.run
    modify (set slots)
    return result

/-- A call carried out over a store and a memory. -/
def carryOut (x : Call α) (store : Store) (memory : Memory) :
    Outcome (Except ConfigError α × Memory) :=
  (x.run.run memory).run store

omit [DecidableEq κ] in
theorem carryOut_pure (store : Store) (m : Memory) (a : α) :
    (pure a : Call α).carryOut store m = ⟨(.ok a, m), [], []⟩ := rfl

/-- One call after another: the second starts from the memory that the first leaves. -/
theorem carryOut_bind (store : Store) (m : Memory) (x : Call α) (f : α → Call β) :
    Call.carryOut (x >>= f) store m =
      let first := x.carryOut store m
      match first.value with
      | (.ok a, m') =>
        let second := (f a).carryOut store m'
        ⟨second.value, first.asked ++ second.asked, first.events ++ second.events⟩
      | (.error e, m') => ⟨(.error e, m'), first.asked, first.events⟩ := by
  rw [carryOut, ExceptT.run_bind, StateT.run_bind, Inquiry.run_bind]
  unfold carryOut
  rcases (x.run.run m).run store with ⟨⟨value, m'⟩, asked, events⟩
  cases value <;> simp [Inquiry.run_pure]

/-- A read leaves the memory as it is. -/
theorem carryOut_ofRead (store : Store) (m : Memory) (x : Read α) :
    (ofRead x).carryOut store m =
      let outcome := x.carryOut store
      ⟨(outcome.value, m), outcome.asked, outcome.events⟩ := by
  have h : (ofRead x).run.run m = x.run >>= fun r => pure (r, m) := rfl
  rw [carryOut, h, Inquiry.run_bind]
  simp [Inquiry.run_pure, Read.carryOut]

/-- A call whose value is kept asks nothing once it is there. -/
theorem carryOut_cached_of_some (store : Store) (m : Memory) {get : Memory → Slot α}
    (set : Slot α → Memory → Memory) (init : Call α) {a : α} (h : (get m).value? = some a) :
    (cached get set init).carryOut store m = ⟨(.ok a, set (get m) m), [], []⟩ := by
  have step : (cached get set init).run.run m
      = (((get m).getOrInit init.run).run m) >>= fun r => pure (r.1.1, set r.1.2 r.2) := rfl
  rw [carryOut, step, Slot.getOrInit, h]
  rfl

/-- A call whose value is kept computes it while it is not there, and keeps it if it succeeds. -/
theorem carryOut_cached_of_none (store : Store) (m : Memory) {get : Memory → Slot α}
    (set : Slot α → Memory → Memory) (init : Call α) (h : (get m).value? = none) :
    (cached get set init).carryOut store m =
      let outcome := init.carryOut store m
      let slot : Slot α := ⟨outcome.value.1.toOption⟩
      ⟨(outcome.value.1, set slot outcome.value.2), outcome.asked, outcome.events⟩ := by
  have step : (cached get set init).run.run m
      = (((get m).getOrInit init.run).run m) >>= fun r => pure (r.1.1, set r.1.2 r.2) := rfl
  rw [carryOut, step, Slot.getOrInit, h, Inquiry.run_bind]
  simp only [StateT.run_bind, Inquiry.run_bind]
  unfold carryOut
  rcases (init.run.run m).run store with ⟨⟨value, m'⟩, asked, events⟩
  cases value <;> simp [Inquiry.run_pure, Except.toOption, Slot.empty]

/-- A call whose value is kept under a key asks nothing once it is there. -/
theorem carryOut_cachedAt_of_some (store : Store) (m : Memory) {get : Memory → Slots κ α}
    (set : Slots κ α → Memory → Memory) (k : κ) (init : Call α) {a : α}
    (h : ((get m).slot k).value? = some a) :
    (cachedAt get set k init).carryOut store m
      = ⟨(.ok a, set ((get m).put k ((get m).slot k)) m), [], []⟩ := by
  have step : (cachedAt get set k init).run.run m
      = (((get m).getOrInit k init.run).run m) >>= fun r => pure (r.1.1, set r.1.2 r.2) := rfl
  rw [carryOut, step, Slots.getOrInit, Slot.getOrInit, h]
  rfl

/-- A call whose value is kept under a key computes it while it is not there, and keeps it if it
succeeds. -/
theorem carryOut_cachedAt_of_none (store : Store) (m : Memory) {get : Memory → Slots κ α}
    (set : Slots κ α → Memory → Memory) (k : κ) (init : Call α)
    (h : ((get m).slot k).value? = none) :
    (cachedAt get set k init).carryOut store m =
      let outcome := init.carryOut store m
      let slot : Slot α := ⟨outcome.value.1.toOption⟩
      ⟨(outcome.value.1, set ((get m).put k slot) outcome.value.2), outcome.asked,
        outcome.events⟩ := by
  have step : (cachedAt get set k init).run.run m
      = (((get m).getOrInit k init.run).run m) >>= fun r => pure (r.1.1, set r.1.2 r.2) := rfl
  rw [carryOut, step, Slots.getOrInit, Slot.getOrInit, h, Inquiry.run_bind]
  simp only [StateT.run_bind, Inquiry.run_bind]
  unfold carryOut
  rcases (init.run.run m).run store with ⟨⟨value, m'⟩, asked, events⟩
  cases value <;> simp [Inquiry.run_pure, Except.toOption, Slot.empty]

end Call

namespace Tenant

/-- The name of the domain that is served when none is given. -/
def defaultDomain : String := "default"

/-- The tenant of a domain with the store it reads, if its properties are sound. There is nothing to
read from without a store. -/
def create (store : Option Store) (t : Tenant) : Except ConfigError (Store × Tenant) :=
  match store with
  | none => .error (.ofCause .noStore)
  | some store => do
    t.properties.validate
    return (store, t)

/-- The event of a tenant that was created. -/
def creation (t : Tenant) : Event :=
  ⟨.info, "Domain configuration created", [("domain", t.domain)]⟩

/-- The reader of a tenant, of one profile or of none. -/
def reader (t : Tenant) (profile : Option String) : Reader := ⟨t.domain, profile⟩

/-- The reader of settings that belong to no profile. -/
def plain (t : Tenant) : Reader := t.reader none

/-- A description of a tenant and of how much its memory holds. -/
def describe (t : Tenant) (m : Memory) : String :=
  "DomainConfig \x7b domain: DomainId(" ++ Text.quoted t.domain ++ "), properties: "
    ++ t.properties.describe ++ ", cache: " ++ m.stats.describe ++ " \x7d"

end Tenant

end TenantSettings

import TenantSettings.OrderedMap

/-!
# Slots

A slot holds a value from its first successful computation on.  A computation that fails leaves the
slot empty, so that the next call computes again.

* `Slot.getOrInit`: the value of a slot, computed if there is none.
* `Slots.getOrInit`: the same for a slot per key; a key whose computation failed has an empty slot.
-/

namespace TenantSettings

/-- A value computed at most once. -/
structure Slot (ν : Type) where
  value? : Option ν
deriving DecidableEq, Repr

namespace Slot

variable {ν ε : Type} {m : Type → Type} [Monad m]

/-- The slot that nothing was computed for yet. -/
def empty : Slot ν := ⟨none⟩

/-- Whether the value was computed. -/
def isFilled (s : Slot ν) : Bool := s.value?.isSome

/-- The value of a slot, from `init` when there is none yet, and the slot afterwards. -/
def getOrInit (s : Slot ν) (init : m (Except ε ν)) : m (Except ε ν × Slot ν) :=
  match s.value? with
  | some v => pure (.ok v, s)
  | none => do
    match ← init with
    | .ok v => pure (.ok v, ⟨some v⟩)
    | .error e => pure (.error e, empty)

/-- A description of a slot, given the texts of values. -/
def describe (text : ν → String) (s : Slot ν) : String :=
  match s.value? with
  | some v => "LazySlot(Some(" ++ text v ++ "))"
  | none => "LazySlot(None)"

end Slot

/-- A slot for each key that a value was asked for. -/
structure Slots (κ ν : Type) where
  slots : OrderedMap κ (Slot ν)

namespace Slots

variable {κ ν ε : Type} [DecidableEq κ] {m : Type → Type} [Monad m]

/-- Slots that nothing was computed for yet. -/
def empty : Slots κ ν := ⟨.empty⟩

/-- The slot of a key, an empty one while the key has none. -/
def slot (s : Slots κ ν) (k : κ) : Slot ν := (s.slots.get? k).getD .empty

/-- Slots with the slot of a key put in. -/
def put (s : Slots κ ν) (k : κ) (slot : Slot ν) : Slots κ ν := ⟨s.slots.insert k slot⟩

/-- The value of the slot of a key, from `init` when there is none yet, and the slots afterwards. -/
def getOrInit (s : Slots κ ν) (k : κ) (init : m (Except ε ν)) : m (Except ε ν × Slots κ ν) := do
  let (result, slot) ← (s.slot k).getOrInit init
  return (result, s.put k slot)

/-- The number of keys whose value was computed. -/
def computed (s : Slots κ ν) : Nat := (s.slots.filterValues (·.isFilled)).size

theorem slot_put (s : Slots κ ν) (k k' : κ) (slot : Slot ν) :
    (s.put k slot).slot k' = if k' = k then slot else s.slot k' := by
  rw [Slots.slot, put, OrderedMap.get?_insert]
  split <;> rfl

/-- Putting in the slot that a key has changes no slot. -/
theorem slot_put_slot (s : Slots κ ν) (k k' : κ) : (s.put k (s.slot k)).slot k' = s.slot k' := by
  rw [slot_put]
  split
  · next same => rw [same]
  · rfl

/-- A key whose slot is filled has a slot already. -/
theorem put_slot_of_filled {s : Slots κ ν} {k : κ} {v : ν} (h : (s.slot k).value? = some v) :
    s.put k (s.slot k) = s := by
  rw [slot] at h
  cases there : s.slots.get? k with
  | none =>
    rw [there] at h
    cases h
  | some slot =>
    rw [put, Slots.slot, there, Option.getD_some, OrderedMap.insert_of_get? _ _ _ there]

end Slots

end TenantSettings

import TenantSettings.Proofs.Secrecy.Reading
import TenantSettings.Proofs.Tenant.Memory

/-!
# Calls that keep secrets

What a tenant derives from secrets it keeps in its memory, where later calls find it.  A look-up in
a memory commutes with redaction, so two memories of one redaction cannot be told apart by what is
found in them, and calls that keep their value are compared like reads.

* `Slots.map`: images of slots, which have as many values.
* `Memory.redact`, `Memory.stats_redact`: what a memory shows, among it how much it holds.
* `Memory.lookUp_map`: a look-up commutes with redaction.
* `Call.Alike`: calls that show the same from memories that do, with one rule for each way to put
  calls together.
-/

namespace TenantSettings

/-! ### Slots of other values -/

section map

variable {κ ν μ : Type} (f : ν → μ)

/-- The slot that has an image of a value where there is one. -/
def Slot.map (s : Slot ν) : Slot μ := ⟨s.value?.map f⟩

namespace Slots

/-- Slots that have an image of each value. -/
def map (s : Slots κ ν) : Slots κ μ := ⟨s.slots.map (Slot.map f)⟩

variable [DecidableEq κ]

lemma slot_map (s : Slots κ ν) (k : κ) : (s.map f).slot k = (s.slot k).map f := by
  rw [slot, map, OrderedMap.get?_map, slot]
  cases s.slots.get? k <;> rfl

lemma map_put (s : Slots κ ν) (k : κ) (slot : Slot ν) :
    (s.put k slot).map f = (s.map f).put k (slot.map f) :=
  congrArg Slots.mk (OrderedMap.map_insert (Slot.map f) s.slots k slot)

omit [DecidableEq κ] in
lemma computed_map (s : Slots κ ν) : (s.map f).computed = s.computed := by
  have filled : ∀ slot : Slot ν, (slot.map f).isFilled = slot.isFilled := fun slot =>
    Option.isSome_map
  rw [computed, map, ← OrderedMap.map_filterValues (Slot.map f) filled, OrderedMap.size_map,
    computed]

end Slots

end map

/-! ### What a memory shows -/

/-- A key without its material. -/
def SecurityKey.redact (k : SecurityKey) : SecurityKey := { k with material := [] }

/-- Keys from texts of one length show the same. -/
lemma SecurityKey.redact_ofText_eq {text text' : String} (h : text.length = text'.length)
    (ephemeral : Bool) : (ofText text ephemeral).redact = (ofText text' ephemeral).redact := by
  simp only [redact, ofText, h]

/-- What is derived from a store, with all secrets in it redacted: of a generated key text the
length remains, of a digest nothing. -/
def Derived.redact : (x : Derived) → x.Value → x.Value
  | .profiles _ => OrderedMap.map Profile.redact
  | .directories => OrderedMap.map Directory.redact
  | .policy _ _ => id
  | .bundle _ _ => id
  | .keyText => fun text => (Secret.redact ⟨text⟩).text
  | .key => SecurityKey.redact
  | .digest => fun _ => ""

namespace Memory

/-- A memory with all secrets in it redacted. -/
def redact (m : Memory) : Memory where
  directories := ⟨m.directories.value?.map (Derived.redact .directories)⟩
  key := ⟨m.key.value?.map (Derived.redact .key)⟩
  keyText := ⟨m.keyText.value?.map (Derived.redact .keyText)⟩
  policies := m.policies
  bundles := m.bundles
  profiles := m.profiles.map (OrderedMap.map Profile.redact)
  digest := ⟨m.digest.value?.map (Derived.redact .digest)⟩
  draws := m.draws

/-- How much a memory holds shows no secret. -/
lemma stats_redact (m : Memory) : m.redact.stats = m.stats := by
  simp [stats, redact, Slots.computed_map, Slot.isFilled]

lemma kept?_redact (m : Memory) (x : Derived) : m.redact.kept? x = (m.kept? x).map x.redact := by
  cases x with
  | profiles d => exact congrArg Slot.value? (Slots.slot_map _ _ d)
  | policy id locale => exact (congrFun Option.map_id _).symm
  | bundle b key => exact (congrFun Option.map_id _).symm
  | _ => rfl

lemma redact_keep (m : Memory) (x : Derived) (v : x.Value) :
    (m.keep x v).redact = m.redact.keep x (x.redact v) := by
  cases x with
  | profiles d => simp [keep, redact, Slots.map_put, Slot.map, Derived.redact]
  | _ => rfl

lemma redact_touch (m : Memory) (x : Derived) : (m.touch x).redact = m.redact.touch x := by
  cases x with
  | profiles d => simp [touch, redact, Slots.map_put, Slots.slot_map]
  | _ => rfl

lemma redact_learn (m : Memory) (x : Derived) (r : Except ConfigError x.Value) :
    (m.learn x r).redact = m.redact.learn x (r.map x.redact) := by
  cases r with
  | ok v => exact m.redact_keep x v
  | error e => exact m.redact_touch x

end Memory

/-- What a call shows of its result and of the memory that it leaves. -/
def Call.shown {α γ : Type} (μ : α → γ) :
    Except ConfigError α × Memory → Except ConfigError γ × Memory :=
  Prod.map (Except.map μ) Memory.redact

/-- A look-up in a redacted memory, with a redacted computation, comes to what it comes to,
redacted. -/
lemma Memory.lookUp_map (m : Memory) (x : Derived)
    (computed : Outcome (Except ConfigError x.Value × Memory)) :
    (m.lookUp x computed).map (Call.shown x.redact)
      = m.redact.lookUp x (computed.map (Call.shown x.redact)) := by
  have there := m.kept?_redact x
  cases hit : m.kept? x with
  | some v =>
      rw [hit] at there
      rw [lookUp_eq_of_kept hit, lookUp_eq_of_kept there]
      rfl
  | none =>
      rw [hit] at there
      rw [lookUp_eq_of_not_kept hit, lookUp_eq_of_not_kept there]
      simp [Outcome.map, Call.shown, redact_learn]

/-! ### Calls that show the same -/

namespace Call

variable {α β γ δ : Type} {μ : α → γ} {ν : β → δ}

/-- Over stores of one redaction and from memories of one redaction, the calls ask the same
questions, log the same events and leave memories of one redaction; they fail with the same error,
or `μ` does not tell their values apart. -/
def Alike (μ : α → γ) (c d : Call α) : Prop :=
  ∀ m n : Memory, m.redact = n.redact → Inquiry.Alike (shown μ) (c.run.run m) (d.run.run n)

/-- Over stores and from memories of one redaction, the call comes to the same in every respect. -/
abbrev Shown (c : Call α) : Prop := Alike id c c

namespace Alike

lemma ofRead {x y : Read α} (h : Read.Alike μ x y) : Alike μ (Call.ofRead x) (Call.ofRead y) := by
  intro m n same
  exact Inquiry.Alike.bind h fun r r' results => .pure (Prod.ext results same)

lemma pure {a b : α} (h : μ a = μ b) : Alike μ (Pure.pure a : Call α) (Pure.pure b) :=
  ofRead (.pure h)

lemma fail (e : ConfigError) : Alike μ (Call.fail e : Call α) (Call.fail e) :=
  ofRead (.fail e)

lemma tell (e : Event) : Shown (Call.tell e) :=
  ofRead (.tell e)

/-- One call after another. -/
lemma bind {c d : Call α} {f g : α → Call β} (hc : Alike μ c d)
    (hf : ∀ a b, μ a = μ b → Alike ν (f a) (g b)) : Alike ν (c >>= f) (d >>= g) := by
  intro m n same
  rw [ExceptT.run_bind, ExceptT.run_bind, StateT.run_bind, StateT.run_bind]
  refine Inquiry.Alike.bind (hc m n same) fun p q both => ?_
  obtain ⟨r, m'⟩ := p
  obtain ⟨r', n'⟩ := q
  obtain ⟨results, memories⟩ := Prod.mk.inj both
  rcases Except.cases_of_map_eq results with ⟨e, rfl, rfl⟩ | ⟨a, a', rfl, rfl, value⟩
  · exact .pure (Prod.ext rfl memories)
  · exact hf a a' value m' n' memories

/-- One call after another, where the first shows its value. -/
lemma bind_shown {c : Call α} {f g : α → Call β} (hc : Shown c)
    (hf : ∀ a, Alike ν (f a) (g a)) : Alike ν (c >>= f) (c >>= g) :=
  hc.bind fun a b (same : a = b) => same ▸ hf a

lemma ite {p : Prop} [Decidable p] {c c' d d' : Call α} (hc : Alike μ c c') (hd : Alike μ d d') :
    Alike μ (if p then c else d) (if p then c' else d') := by
  split
  · exact hc
  · exact hd

/-- Calls that keep their value, if computing it shows the same. -/
lemma lookUp {x : Derived} {call call' init init' : Call x.Value}
    (look : ∀ store m, call.carryOut store m = m.lookUp x (init.carryOut store m))
    (look' : ∀ store m, call'.carryOut store m = m.lookUp x (init'.carryOut store m))
    (h : Alike x.redact init init') : Alike x.redact call call' := by
  intro m n same s t stores
  have computed : (init.carryOut s m).map (shown x.redact)
      = (init'.carryOut t n).map (shown x.redact) := h m n same s t stores
  show (call.carryOut s m).map _ = (call'.carryOut t n).map _
  rw [look, look', Memory.lookUp_map, Memory.lookUp_map, computed, same]

/-- Calls that are alike in a view are alike in a coarser one. -/
lemma mono {c d : Call α} {ν : α → δ} (h : Alike μ c d) (coarser : ∀ a b, μ a = μ b → ν a = ν b) :
    Alike ν c d := by
  intro m n same s t stores
  obtain ⟨both, asked, events⟩ := Outcome.map_eq_map_iff.mp (h m n same s t stores)
  obtain ⟨results, memories⟩ := Prod.mk.inj both
  refine Outcome.map_eq_map_iff.mpr ⟨Prod.ext ?_ memories, asked, events⟩
  rcases Except.cases_of_map_eq results with ⟨e, he, he'⟩ | ⟨a, a', ha, ha', value⟩
  · simp [shown, he, he']
  · simp [shown, ha, ha', Except.map, coarser a a' value]

/-- Calls that are alike in some view are alike where their value is left aside. -/
lemma forget {c d : Call α} (h : Alike μ c d) : Alike (fun _ => ()) c d :=
  h.mono fun _ _ _ => rfl

end Alike

end Call

end TenantSettings

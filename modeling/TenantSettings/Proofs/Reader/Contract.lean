import TenantSettings.Proofs.Reader.Shape

/-!
# Contracts of reads

What a read may come to over one store: what is known of its value where it succeeds, and of its
error where it fails. Contracts compose as reads do, so that a profile is followed once, read by
read, and its validity and its errors come out together.

* `Read.Meets`: a read that meets a contract, with one rule for each way to put reads together.
* `ConfigError.CodeIn`: errors that carry no code but some given ones; those of asking the wrong way
  carry none.
* `Reader.meets_read`: over any store, a read that takes every value of its shapes yields what the
  stored value decodes to, and otherwise fails without a code.
* `Reader.meets_read_of_admits`: where the stored value fits a setting that is read as it is
  declared, the read does not fail at all.
-/

namespace TenantSettings

/-! ### Reads that meet a contract -/

namespace Read

variable {α β : Type} {store : Store} {Q : α → Prop} {R : β → Prop} {E F : ConfigError → Prop}

/-- Over a store, what the read yields satisfies `Q`, and what it fails with satisfies `E`. -/
structure Meets (store : Store) (Q : α → Prop) (E : ConfigError → Prop) (x : Read α) : Prop where
  yields : ∀ {a : α}, x.result store = .ok a → Q a
  fails : ∀ {e : ConfigError}, x.result store = .error e → E e

namespace Meets

/-- A read that succeeds meets a contract by its value, -/
lemma of_ok {x : Read α} {a : α} (comes : x.result store = .ok a) (h : Q a) :
    Meets store Q E x := by
  refine ⟨fun done => ?_, fun failed => ?_⟩
  · rw [comes] at done
    exact Except.ok.inj done ▸ h
  · rw [comes] at failed
    cases failed

/-- and one that fails meets it by its error. -/
lemma of_error {x : Read α} {e : ConfigError} (comes : x.result store = .error e) (h : E e) :
    Meets store Q E x := by
  refine ⟨fun done => ?_, fun failed => ?_⟩
  · rw [comes] at done
    cases done
  · rw [comes] at failed
    exact Except.error.inj failed ▸ h

lemma pure {a : α} (h : Q a) : Meets store Q E (Pure.pure a : Read α) := of_ok rfl h

lemma fail {e : ConfigError} (h : E e) : Meets store Q E (Read.fail e : Read α) := of_error rfl h

/-- A result that asks nothing. -/
lemma ofExcept {r : Except ConfigError α} (yields : ∀ a, r = .ok a → Q a)
    (fails : ∀ e, r = .error e → E e) : Meets store Q E (Read.ofExcept r) :=
  ⟨fun {a} done => yields a done, fun {e} failed => fails e failed⟩

/-- One read after another: the second may count on what the first yields. -/
lemma bind {x : Read α} {f : α → Read β} (hx : Meets store Q E x)
    (hf : ∀ a, Q a → Meets store R E (f a)) : Meets store R E (x >>= f) := by
  have whole := result_bind store x f
  cases first : x.result store with
  | error e =>
      rw [first] at whole
      exact of_error whole (hx.fails first)
  | ok a =>
      rw [first] at whole
      have second := hf a (hx.yields first)
      exact ⟨fun done => second.yields (whole.symm.trans done),
        fun failed => second.fails (whole.symm.trans failed)⟩

/-- After a read that is known to succeed, only the second counts. -/
lemma bind_of_ok {x : Read α} {a : α} {f : α → Read β} (comes : x.result store = .ok a)
    (hf : Meets store R E (f a)) : Meets store R E (x >>= f) := by
  have first : Meets store (· = a) E x := of_ok comes rfl
  exact first.bind fun _ same => same ▸ hf

/-- What is read last meets its contract, whatever was read before. -/
lemma after {x : Read α} {f : α → Read β} (hf : ∀ a, Meets store R (fun _ => True) (f a)) :
    Meets store R (fun _ => True) (x >>= f) := by
  have first : Meets store (fun _ => True) (fun _ => True) x := ⟨fun _ => trivial, fun _ => trivial⟩
  exact first.bind fun a _ => hf a

lemma ite {c : Prop} [Decidable c] {x y : Read α} (hx : c → Meets store Q E x)
    (hy : ¬ c → Meets store Q E y) : Meets store Q E (if c then x else y) := by
  split
  · next holds => exact hx holds
  · next fails => exact hy fails

/-- A weaker contract. -/
lemma mono {x : Read α} {Q' : α → Prop} (hx : Meets store Q E x) (hQ : ∀ a, Q a → Q' a)
    (hE : ∀ e, E e → F e) : Meets store Q' F x :=
  ⟨fun done => hQ _ (hx.yields done), fun failed => hE _ (hx.fails failed)⟩

/-- A read that cannot fail succeeds, -/
lemma exists_ok {x : Read α} (hx : Meets store Q (fun _ => False) x) :
    ∃ a, x.result store = .ok a ∧ Q a := by
  cases comes : x.result store with
  | ok a => exact ⟨a, rfl, hx.yields comes⟩
  | error e => exact (hx.fails comes).elim

/-- and one that cannot succeed fails. -/
lemma exists_error {x : Read α} (hx : Meets store (fun _ => False) E x) :
    ∃ e, x.result store = .error e ∧ E e := by
  cases comes : x.result store with
  | ok a => exact (hx.yields comes).elim
  | error e => exact ⟨e, rfl, hx.fails comes⟩

/-- The image of what is read. -/
lemma map {x : Read α} {f : α → β} (hx : Meets store Q E x) (hf : ∀ a, Q a → R (f a)) :
    Meets store R E (f <$> x) := by
  rw [map_eq_pure_bind]
  exact hx.bind fun a ha => pure (hf a ha)

/-- A failure under another name. -/
lemma mapError {x : Read α} {f : ConfigError → ConfigError} (hx : Meets store Q E x)
    (hf : ∀ e, E e → F (f e)) : Meets store Q F (x.mapError f) := by
  have renamed := result_mapError store f x
  cases comes : x.result store with
  | ok a =>
      rw [comes] at renamed
      exact of_ok renamed (hx.yields comes)
  | error e =>
      rw [comes] at renamed
      exact of_error renamed (hf e (hx.fails comes))

end Meets

end Read

/-! ### The codes of errors -/

/-- The error carries none but some given codes. -/
def ConfigError.CodeIn (codes : List ErrorCode) (e : ConfigError) : Prop :=
  ∀ c, e.code? = some c → c ∈ codes

/-- A profile that cannot be built is an error of its own code. -/
lemma ConfigError.codeIn_ofProfile {codes : List ErrorCode}
    (known : ErrorCode.profileConstruction ∈ codes) (id : String) (fault : ProfileFault) :
    (ofProfile id fault).CodeIn codes := by
  intro c hc
  obtain rfl : ErrorCode.profileConstruction = c := Option.some.inj hc
  exact known

/-! ### Typed reads -/

/-- The readings that refuse a value for its shape only, never for what it holds. -/
def Reading.takesAll : Reading → Bool
  | .files | .certificates | .privateKey => false
  | _ => true

/-- Such a reading makes something of every value of its shapes. -/
lemma Reading.exists_decode {reading : Reading} (all : reading.takesAll = true) {v : StoredValue}
    (taken : v.shape ∈ reading.shapes) (x : Setting) : ∃ a, reading.decode x v = .ok a := by
  cases reading with
  | files | certificates | privateKey => cases all
  | choice ofWord? =>
      -- a word that stands for nothing is passed over
      cases v with
      | text word | choice word =>
          simp only [decode, Setting.decodeChoice]
          split
          · exact ⟨_, rfl⟩
          · exact ⟨_, rfl⟩
      | _ => simp [shapes, StoredValue.shape] at taken
  | _ => cases v <;> first | exact ⟨_, rfl⟩ | simp [shapes, StoredValue.shape] at taken

namespace Reader

open Read ConfigError

variable {store : Store} {E : ConfigError → Prop} {codes : List ErrorCode}

/-- What is stored for a setting, within the scope of the reader, decodes to the answer. -/
def Finds (r : Reader) (store : Store) (x : Setting) (reading : Reading) (a : reading.Answer) :
    Prop :=
  ∃ profile warnings, r.scope x = .ok profile
    ∧ reading.decode x (store.answer (.value x profile)) = .ok (a, warnings)

/-- The failure of a profile that cannot be built. -/
lemma meets_fault {α : Type} {Q : α → Prop} (r : Reader) (f : ProfileFault)
    (h : E (.ofProfile r.profileId f)) : Meets store Q E (r.fault f : Read α) :=
  .fail h

/-- A read yields what the stored value decodes to. It fails if the setting cannot be looked up here
or if decoding does. -/
lemma meets_read_of_decode (r : Reader) (x : Setting) (reading : Reading)
    (lost : ∀ e, r.scope x = .error e → E e)
    (refused : ∀ profile e, r.scope x = .ok profile →
      reading.decode x (store.answer (.value x profile)) = .error e → E e) :
    Meets store (r.Finds store x reading) E (r.read x reading) := by
  cases scope : r.scope x with
  | error e =>
      have failed : (r.read x reading).result store = .error e := by
        rw [Read.result, carryOut_read, scope]
      exact .of_error failed (lost e scope)
  | ok profile =>
      have comes := r.result_read scope reading store
      cases decoded : reading.decode x (store.answer (.value x profile)) with
      | error e =>
          rw [decoded] at comes
          exact .of_error comes (refused profile e scope decoded)
      | ok p =>
          rw [decoded] at comes
          exact .of_ok comes ⟨profile, p.2, scope, decoded⟩

/-- A setting that cannot be looked up here is asked for in the wrong way. -/
lemma codeIn_of_scope {r : Reader} {x : Setting} {e : ConfigError} (lost : r.scope x = .error e) :
    e.CodeIn codes := by
  unfold scope at lost
  split at lost
  · cases lost
  · split at lost
    · cases lost
    · obtain rfl := Except.error.inj lost
      intro c hc
      cases hc

/-- Over any store, a read that takes every value of its shapes fails without a code: the setting
cannot be looked up here, or the stored value has another shape. -/
lemma meets_read (r : Reader) (x : Setting) {reading : Reading} (all : reading.takesAll = true) :
    Meets store (r.Finds store x reading) (CodeIn codes) (r.read x reading) := by
  refine r.meets_read_of_decode x reading (fun e lost => codeIn_of_scope lost)
    fun profile e _ refused => ?_
  by_cases taken : (store.answer (.value x profile)).shape ∈ reading.shapes
  · obtain ⟨a, decoded⟩ := Reading.exists_decode all taken x
    rw [decoded] at refused
    cases refused
  · rw [Reading.decode_of_notMem_shapes taken] at refused
    obtain rfl := Except.error.inj refused
    intro c hc
    cases hc

/-- Over any store, any other read may also find that what is stored is no valid configuration. -/
lemma meets_read_of_invalidConfig (r : Reader) (x : Setting) (reading : Reading)
    (known : ErrorCode.invalidConfig ∈ codes) :
    Meets store (r.Finds store x reading) (CodeIn codes) (r.read x reading) := by
  refine r.meets_read_of_decode x reading (fun e lost => codeIn_of_scope lost)
    fun profile e _ refused c hc => ?_
  by_cases taken : (store.answer (.value x profile)).shape ∈ reading.shapes
  · have invalid := Reading.onlyInvalid_decode taken x e refused
    rw [invalid] at hc
    exact Option.some.inj hc ▸ known
  · rw [Reading.decode_of_notMem_shapes taken] at refused
    obtain rfl := Except.error.inj refused
    cases hc

/-- What is found as a number through the reader of a profile is stored as that number there. -/
lemma Finds.stored_number {r : Reader} {x : Setting} {n : Int64} (h : r.Finds store x .number n)
    {id : String} (named : r.profile = some id) (profiled : x.isProfiled = true) :
    store.answer (.value x (some id)) = .number n := by
  obtain ⟨profile, warnings, scope, decoded⟩ := h
  rw [Reader.scope, profiled, named] at scope
  obtain rfl : some id = profile := Except.ok.inj scope
  revert decoded
  generalize store.answer (.value x (some id)) = v
  intro decoded
  cases v with
  | number m => rw [(Prod.mk.inj (Except.ok.inj decoded)).1]
  | _ => cases decoded

/-- A number that is read is the stored one. -/
lemma meets_number (r : Reader) (x : Setting) :
    Meets store (fun n => ∃ stored : Int64, r.Finds store x .number stored ∧ stored.toInt = n)
      (CodeIn codes) (r.number x) :=
  (r.meets_read x rfl).bind fun stored found => .pure ⟨stored, found, rfl⟩

/-- A required text is not blank. -/
lemma meets_requiredText (r : Reader) (x : Setting)
    (known : ErrorCode.profileConstruction ∈ codes) :
    Meets store (fun text => Unicode.isBlank text = false) (CodeIn codes) (r.requiredText x) := by
  refine (r.meets_read x rfl).bind fun text _ => .ite (fun _ => ?_) fun written => ?_
  · exact r.meets_fault _ (codeIn_ofProfile known _ _)
  · exact .pure (Bool.not_eq_true _ ▸ written)

/-! ### Reads of what fits -/

/-- Where the stored value fits its setting, a reading for the declared shape that takes every value
of its shapes does not fail. -/
lemma meets_read_of_admits (r : Reader) {x : Setting} {reading : Reading}
    (all : reading.takesAll = true) (own : x.shape ∈ reading.shapes)
    (allowed : x.isProfiled = true → r.profile.isSome = true)
    (fits : ∀ profile, x.admits (store.answer (.value x profile)) = true) :
    Meets store (fun _ => True) E (r.read x reading) := by
  refine (r.meets_read_of_decode x reading (fun e lost => ?_) fun profile e _ refused => ?_).mono
    (fun _ _ => trivial) fun _ h => h
  · obtain ⟨profile, scope⟩ := r.exists_scope allowed
    rw [scope] at lost
    cases lost
  · have taken := (reading.mem_shapes_of_admits (fits profile)).mpr own
    obtain ⟨a, decoded⟩ := Reading.exists_decode all taken x
    rw [decoded] at refused
    cases refused

end Reader

end TenantSettings

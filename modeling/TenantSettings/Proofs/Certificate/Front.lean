import Mathlib.Tactic.Lemma
import TenantSettings.Certificate.Basic

/-!
# What stands behind a certificate

A certificate is read off the front of a byte sequence: its header says how many bytes belong to it,
and what stands behind them is not looked at. It is kept with the certificate all the same, and the
fingerprint is taken of all bytes together.

* `Der.TakesFront`: readers that look at nothing behind what they take off.
* `Der.Whole`: bytes that are one element and nothing else; `Der.Whole.append_inj`: an element shows
  where it ends.
* `Certificate.Encodes`: bytes that are the encoding of one certificate and nothing else.
* `Certificate.encodes_der_iff`: the bytes of a certificate are its encoding exactly if nothing
  stands behind it, and whatever is appended leaves the rest of the summary as it is;
  `Certificate.fingerprint_of_trailing_byte`, one for which the fingerprint changes.
-/

namespace TenantSettings

/-! ### Readers -/

namespace Der

variable {α β : Type}

/-- A reader that looks at nothing behind what it takes off the front of a byte sequence. -/
def TakesFront (read : List UInt8 → Option (α × List UInt8)) : Prop :=
  ∀ bytes a rest, read bytes = some (a, rest) →
    ∃ front, bytes = front ++ rest ∧ ∀ more, read (front ++ more) = some (a, more)

/-- So does one such reader after another. -/
lemma TakesFront.bind {read : List UInt8 → Option (α × List UInt8)}
    {next : α → List UInt8 → Option (β × List UInt8)} (first : TakesFront read)
    (second : ∀ a, TakesFront (next a)) :
    TakesFront fun bytes => (read bytes).bind fun p => next p.1 p.2 := by
  intro bytes b rest both
  obtain ⟨⟨a, between⟩, done, later⟩ := Option.bind_eq_some_iff.mp both
  obtain ⟨front, rfl, again⟩ := first bytes a between done
  obtain ⟨front', rfl, again'⟩ := second a between b rest later
  refine ⟨front ++ front', (List.append_assoc ..).symm, fun more => ?_⟩
  show (read (front ++ front' ++ more)).bind (fun p => next p.1 p.2) = some (b, more)
  rw [List.append_assoc, again]
  exact again' more

/-- So does a reader of a single byte followed by such readers. -/
lemma takesFront_of_byte {read : List UInt8 → Option (α × List UInt8)} (nil : read [] = none)
    (cons : ∀ b, TakesFront fun rest => read (b :: rest)) : TakesFront read := by
  intro bytes a rest done
  cases bytes with
  | nil => rw [nil] at done; cases done
  | cons b bytes =>
      obtain ⟨front, rfl, again⟩ := cons b bytes a rest done
      exact ⟨b :: front, rfl, again⟩

lemma takesFront_some (a : α) : TakesFront fun bytes => some (a, bytes) := by
  intro bytes b rest done
  obtain ⟨rfl, rfl⟩ := Prod.mk.inj (Option.some.inj done)
  exact ⟨[], rfl, fun more => rfl⟩

lemma takesFront_none : TakesFront fun _ => (none : Option (α × List UInt8)) := by
  intro bytes a rest done
  cases done

lemma takesFront_longTag (acc budget : Nat) : TakesFront (longTag acc budget) := by
  induction budget generalizing acc with
  | zero => exact takesFront_none
  | succ budget ih =>
      refine takesFront_of_byte rfl fun b => ?_
      unfold longTag
      by_cases last : b.toNat < 128
      · simp only [last, if_true]
        exact takesFront_some _
      · simp only [last, if_false]
        exact ih _

lemma takesFront_identifier? : TakesFront identifier? := by
  refine takesFront_of_byte rfl fun b => ?_
  by_cases long : b.toNat % 32 = 31
  · simp only [identifier?, long, if_true]
    exact (takesFront_longTag 0 5).bind fun _ => takesFront_some _
  · simp only [identifier?, long, if_false]
    exact (takesFront_some _).bind fun _ => takesFront_some _

/-- As many bytes as are asked for, and what follows them. -/
def takeBytes (n : Nat) (bytes : List UInt8) : Option (List UInt8 × List UInt8) :=
  if bytes.length < n then none else some (bytes.take n, bytes.drop n)

lemma takeBytes_append {n : Nat} {front : List UInt8} (whole : front.length = n)
    (more : List UInt8) : takeBytes n (front ++ more) = some (front, more) := by
  have enough : ¬ (front ++ more).length < n := by
    rw [List.length_append]
    omega
  rw [takeBytes, if_neg enough, List.take_left' whole, List.drop_left' whole]

lemma takeBytes_eq_some_iff {n : Nat} {bytes front rest : List UInt8} :
    takeBytes n bytes = some (front, rest) ↔ bytes = front ++ rest ∧ front.length = n := by
  constructor
  · intro taken
    unfold takeBytes at taken
    split at taken
    · cases taken
    · next enough =>
        obtain ⟨rfl, rfl⟩ := Prod.mk.inj (Option.some.inj taken)
        refine ⟨(List.take_append_drop n bytes).symm, ?_⟩
        rw [List.length_take]
        omega
  · rintro ⟨rfl, whole⟩
    exact takeBytes_append whole rest

lemma takesFront_takeBytes (n : Nat) : TakesFront (takeBytes n) := by
  intro bytes front rest taken
  obtain ⟨rfl, whole⟩ := takeBytes_eq_some_iff.mp taken
  exact ⟨front, rfl, takeBytes_append whole⟩

lemma takesFront_extent? : TakesFront extent? := by
  refine takesFront_of_byte rfl fun b => ?_
  -- a length in one byte, an open length, or a length in as many bytes as the first one says
  by_cases short : b.toNat < 128
  · simp only [extent?, short, if_true]
    exact takesFront_some _
  by_cases opened : b.toNat - 128 = 0
  · simp only [extent?, short, opened, if_false, if_true]
    exact takesFront_some _
  have sized (front : List UInt8) : TakesFront fun rest =>
      if b.toNat - 128 = 127 ∨ UInt64.size ≤ bigEndian front then none
      else some (Extent.length (bigEndian front), rest) := by
    by_cases bad : b.toNat - 128 = 127 ∨ UInt64.size ≤ bigEndian front
    · simp only [bad, if_true]
      exact takesFront_none
    · simp only [bad, if_false]
      exact takesFront_some _
  have taken : (fun rest => extent? (b :: rest))
      = fun rest => (takeBytes (b.toNat - 128) rest).bind fun p =>
        if b.toNat - 128 = 127 ∨ UInt64.size ≤ bigEndian p.1 then none
        else some (Extent.length (bigEndian p.1), p.2) := by
    funext rest
    simp only [extent?, takeBytes, short, opened, if_false]
    by_cases enough : rest.length < b.toNat - 128 <;> simp [enough]
  rw [taken]
  have both := (takesFront_takeBytes (b.toNat - 128)).bind sized
  exact both

lemma takesFront_header? : TakesFront header? :=
  takesFront_identifier?.bind fun _ => takesFront_extent?.bind fun _ => takesFront_some _

/-- An element has a header that says how long its content is. -/
lemma next?_eq_some_iff {bytes rest : List UInt8} {e : Element} :
    Element.next? bytes = some (e, rest) ↔ ∃ h : Header, header? bytes = some (h, e.content ++ rest)
      ∧ h.extent = .length e.content.length ∧ h.toIdentifier = e.toIdentifier := by
  rw [Element.next?]
  cases header? bytes with
  | none => simp
  | some found =>
      obtain ⟨⟨identifier, extent⟩, body⟩ := found
      cases extent with
      | untilMark => simp
      | length n =>
          -- the reader cuts the content off by hand, which is the law for a number of bytes
          have taken : (if body.length < n then none
              else some (⟨identifier, body.take n⟩, body.drop n))
              = (takeBytes n body).map fun p => (Element.mk identifier p.1, p.2) := by
            unfold takeBytes
            split <;> rfl
          simp only [taken, Option.map_eq_some_iff]
          constructor
          · rintro ⟨⟨content, after⟩, found, same⟩
            obtain ⟨rfl, rfl⟩ := Prod.mk.inj same
            obtain ⟨rfl, whole⟩ := takeBytes_eq_some_iff.mp found
            exact ⟨_, rfl, congrArg Extent.length whole.symm, rfl⟩
          · rintro ⟨h, found, extent, same⟩
            obtain ⟨rfl, rfl⟩ := Prod.mk.inj (Option.some.inj found)
            have whole : e.content.length = n := (Extent.length.inj extent).symm
            obtain rfl : identifier = e.toIdentifier := same
            exact ⟨(e.content, rest), takeBytes_append whole rest, rfl⟩

lemma takesFront_next? : TakesFront Element.next? := by
  intro bytes e rest read
  obtain ⟨h, header, extent, identifier⟩ := next?_eq_some_iff.mp read
  obtain ⟨front, rfl, again⟩ := takesFront_header? bytes h _ header
  refine ⟨front ++ e.content, (List.append_assoc ..).symm, fun more => ?_⟩
  refine next?_eq_some_iff.mpr ⟨h, ?_, extent, identifier⟩
  rw [List.append_assoc, again]

lemma takesFront_expect (tag : Nat) : TakesFront (expect tag) := by
  have checked (e : Element) : TakesFront fun rest =>
      if e.tag = tag then some (e.content, rest) else none := by
    by_cases wanted : e.tag = tag
    · simp only [wanted, if_true]
      exact takesFront_some _
    · simp only [wanted, if_false]
      exact takesFront_none
  exact takesFront_next?.bind checked

/-! ### Whole elements -/

/-- Bytes that are one element and nothing else: a header, and as many bytes behind it as it
announces. -/
def Whole (bytes : List UInt8) : Prop :=
  ∃ h body, header? bytes = some (h, body) ∧ h.extent = .length body.length

lemma whole_iff_next? {bytes : List UInt8} :
    Whole bytes ↔ ∃ e, Element.next? bytes = some (e, []) := by
  constructor
  · rintro ⟨h, body, header, extent⟩
    refine ⟨⟨h.toIdentifier, body⟩, next?_eq_some_iff.mpr ⟨h, ?_, extent, rfl⟩⟩
    rw [List.append_nil, header]
  · rintro ⟨e, read⟩
    obtain ⟨h, header, extent, -⟩ := next?_eq_some_iff.mp read
    rw [List.append_nil] at header
    exact ⟨h, e.content, header, extent⟩

/-- An element shows where it ends. -/
lemma Whole.append_inj {front front' rest rest' : List UInt8} (whole : Whole front)
    (whole' : Whole front') (same : front ++ rest = front' ++ rest') :
    front = front' ∧ rest = rest' := by
  obtain ⟨e, read⟩ := whole_iff_next?.mp whole
  obtain ⟨e', read'⟩ := whole_iff_next?.mp whole'
  obtain ⟨f, split, again⟩ := takesFront_next? front e [] read
  obtain ⟨f', split', again'⟩ := takesFront_next? front' e' [] read'
  rw [List.append_nil] at split split'
  subst split split'
  have found := again rest
  rw [same, again'] at found
  obtain ⟨-, rfl⟩ := Prod.mk.inj (Option.some.inj found)
  exact ⟨List.append_cancel_right same, rfl⟩

/-- What is read as an element of some kind is one with something behind it, and nothing changes
with what stands there. -/
lemma exists_whole_of_expect {tag : Nat} {bytes content rest : List UInt8}
    (read : expect tag bytes = some (content, rest)) :
    ∃ front, bytes = front ++ rest ∧ Whole front
      ∧ ∀ more, expect tag (front ++ more) = some (content, more) := by
  obtain ⟨front, rfl, again⟩ := takesFront_expect tag bytes content rest read
  refine ⟨front, rfl, whole_iff_next?.mpr ?_, again⟩
  have alone := again []
  rw [List.append_nil] at alone
  obtain ⟨⟨e, after⟩, found, wanted⟩ := Option.bind_eq_some_iff.mp alone
  refine ⟨e, ?_⟩
  dsimp only at wanted
  split at wanted
  · obtain ⟨-, rfl⟩ := Prod.mk.inj (Option.some.inj wanted)
    exact found
  · cases wanted

end Der

/-! ### Certificates -/

namespace Certificate

open Der

variable {bytes : List UInt8} {c : Certificate}

/-- What every continuation has as an image, the whole has as an image. -/
lemma bind_eq_map_bind {α β : Type} {x : Option α} {f g : α → Option β} {k : β → β}
    (same : ∀ a, f a = (g a).map k) : x.bind f = (x.bind g).map k := by
  cases x with
  | none => rfl
  | some a => exact same a

/-- Two byte sequences that begin with the same content are read as the same certificate, each with
its own bytes. -/
lemma ofDer?_congr {bytes' content rest rest' : List UInt8}
    (read : expect tagSequence bytes = some (content, rest))
    (read' : expect tagSequence bytes' = some (content, rest')) :
    ofDer? bytes' = (ofDer? bytes).map fun c => { c with der := bytes' } := by
  unfold ofDer?
  rw [read, read']
  dsimp only [Option.bind_eq_bind, Option.bind_some]
  -- no step but the last one sees where the content was read from
  repeat refine bind_eq_map_bind fun _ => ?_
  split
  · rfl
  · exact bind_eq_map_bind fun _ => bind_eq_map_bind fun _ => rfl

section read

variable (read : ofDer? bytes = some c)

include read

/-- A certificate is read from the first element, whatever stands behind it. -/
lemma exists_front_of_ofDer? :
    ∃ front rest, bytes = front ++ rest ∧ Whole front
      ∧ ∀ more, ofDer? (front ++ more) = some { c with der := front ++ more } := by
  obtain ⟨⟨content, rest⟩, first, -⟩ := Option.bind_eq_some_iff.mp read
  obtain ⟨front, rfl, whole, again⟩ := exists_whole_of_expect first
  refine ⟨front, rest, rfl, whole, fun more => ?_⟩
  rw [ofDer?_congr first (again more), read]
  rfl

/-- A certificate keeps all bytes that it was read from. -/
lemma der_of_ofDer? : c.der = bytes := by
  obtain ⟨front, rest, rfl, -, again⟩ := exists_front_of_ofDer? read
  have same : c = { c with der := front ++ rest } :=
    Option.some.inj (read.symm.trans (again rest))
  rw [same]

end read

lemma fingerprint_eq_iff {c c' : Certificate} :
    c.fingerprint = c'.fingerprint ↔ Sha256.digest c.der = Sha256.digest c'.der :=
  ⟨fun same => Hex.encode_inj same, fun same => congrArg Hex.encode same⟩

/-- Bytes that are the encoding of one certificate and nothing else. -/
def Encodes (bytes : List UInt8) (c : Certificate) : Prop := Whole bytes ∧ ofDer? bytes = some c

/-- A certificate that is read from some bytes keeps them all. They begin with the encoding of just
one certificate, which has the same summary, and they are that encoding exactly if nothing stands
behind it. Whatever is appended to them is kept with the certificate too, and leaves the rest of
the summary as it is; so the fingerprint is another one, unless two messages have one digest. -/
theorem encodes_der_iff (read : ofDer? bytes = some c) :
    c.der = bytes ∧ ∃ front rest, bytes = front ++ rest ∧ Encodes front { c with der := front }
      ∧ (∀ front' rest' c', bytes = front' ++ rest' → Encodes front' c' →
          front' = front ∧ c' = { c with der := front })
      ∧ (Encodes c.der c ↔ rest = [])
      ∧ ∀ more, ofDer? (bytes ++ more) = some { c with der := bytes ++ more }
        ∧ (({ c with der := bytes ++ more } : Certificate).fingerprint = c.fingerprint
          ↔ Sha256.digest (bytes ++ more) = Sha256.digest bytes) := by
  have kept : c.der = bytes := der_of_ofDer? read
  -- the reader takes a front and reads it alike with anything behind it, or with nothing
  obtain ⟨front, rest, split, whole, again⟩ := exists_front_of_ofDer? read
  have alone : ofDer? front = some { c with der := front } := by
    have nothing := again []
    rwa [List.append_nil] at nothing
  refine ⟨kept, front, rest, split, ⟨whole, alone⟩, ?_, ?_, fun more => ⟨?_, ?_⟩⟩
  · rintro front' rest' c' split' ⟨whole', alone'⟩
    -- one encoding is no proper front of another one, so there is just one such front
    obtain ⟨rfl, -⟩ := whole.append_inj whole' (split.symm.trans split')
    exact ⟨rfl, Option.some.inj (alone'.symm.trans alone)⟩
  · rw [kept]
    constructor
    · rintro ⟨entire, -⟩
      exact (entire.append_inj whole ((List.append_nil bytes).trans split)).2.symm
    · rintro rfl
      rw [List.append_nil] at split
      exact ⟨split ▸ whole, read⟩
  · rw [split, List.append_assoc]
    exact again (rest ++ more)
  · rw [fingerprint_eq_iff, kept]

/-- A certificate of 101 bytes, for the subject `s` by the issuer `i`. -/
def issued : List UInt8 :=
  [0x30, 0x63,
    0x30, 0x55, 0x02, 0x01, 0x01, 0x30, 0x05, 0x06, 0x03, 0x2b, 0x65, 0x70,
      0x30, 0x0c, 0x31, 0x0a, 0x30, 0x08, 0x06, 0x03, 0x55, 0x04, 0x03, 0x0c, 0x01, 0x69,
      0x30, 0x1e,
        0x17, 0x0d, 0x32, 0x34, 0x30, 0x31, 0x30, 0x31, 0x30, 0x30, 0x30, 0x30, 0x30, 0x30, 0x5a,
        0x17, 0x0d, 0x33, 0x34, 0x30, 0x31, 0x30, 0x31, 0x30, 0x30, 0x30, 0x30, 0x30, 0x30, 0x5a,
      0x30, 0x0c, 0x31, 0x0a, 0x30, 0x08, 0x06, 0x03, 0x55, 0x04, 0x03, 0x0c, 0x01, 0x73,
      0x30, 0x0d, 0x30, 0x05, 0x06, 0x03, 0x2b, 0x65, 0x70, 0x03, 0x04, 0x00, 0x01, 0x02, 0x03,
    0x30, 0x05, 0x06, 0x03, 0x2b, 0x65, 0x70,
    0x03, 0x03, 0x00, 0xab, 0xcd]

lemma encodes_issued :
    Encodes issued ⟨"CN=s", "CN=i", "01", 1704067200, 2019686400, issued⟩ :=
  ⟨⟨⟨⟨0, true, tagSequence⟩, .length 99⟩, issued.drop 2, rfl, rfl⟩, by decide +kernel⟩

/-- Two bytes behind a certificate: what it keeps is not its encoding. -/
theorem encodes_der_iff_with_tail :
    let bytes := issued ++ [0xde, 0xad]
    let c : Certificate := ⟨"CN=s", "CN=i", "01", 1704067200, 2019686400, bytes⟩
    ofDer? bytes = some c ∧ ¬ Encodes c.der c := by
  intro bytes c
  have read : ofDer? bytes = some c := by decide +kernel
  obtain ⟨-, front, rest, split, -, unique, entire, -⟩ := encodes_der_iff read
  obtain ⟨rfl, -⟩ := unique issued [0xde, 0xad] _ rfl encodes_issued
  obtain rfl := List.append_cancel_left split
  exact ⟨read, fun encodes => absurd (entire.mp encodes) (by decide)⟩

/-- With one byte behind it, a certificate has the same summary and another fingerprint. -/
theorem fingerprint_of_trailing_byte :
    let c : Certificate := ⟨"CN=s", "CN=i", "01", 1704067200, 2019686400, issued⟩
    let c' : Certificate := { c with der := issued ++ [0] }
    Encodes issued c ∧ ofDer? (issued ++ [0]) = some c' ∧ ¬ Encodes c'.der c'
      ∧ c'.fingerprint ≠ c.fingerprint := by
  intro c c'
  refine ⟨encodes_issued, by decide +kernel, fun encodes => ?_, ?_⟩
  · have whole : Whole (issued ++ [0]) := encodes.1
    have same : issued ++ [0] = (issued ++ [0]) ++ [] := (List.append_nil _).symm
    exact absurd (encodes_issued.1.append_inj whole same).2 (by decide)
  · rw [ne_eq, fingerprint_eq_iff]
    have hashes : Sha256.digest (issued ++ [0]) ≠ Sha256.digest issued := by decide +kernel
    exact hashes

end Certificate

end TenantSettings

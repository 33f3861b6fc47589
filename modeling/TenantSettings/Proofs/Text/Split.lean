import Mathlib.Tactic.Lemma
import TenantSettings.Text.Split

/-!
# Parts that are split and joined

Parts that hold no separator are found again in the text that they make when they are joined, and
two texts of such parts are the same only if their parts are.

* `split_eq_splitOnP`: splitting is that of the standard library.
* `split_join`, `segments_join_free`, `segments_join`: what is joined is found again by splitting.
* `mem_join`, `head?_join`, `getLast?_join`: what is in a text that is joined from parts, and where
  it starts and ends.
* `segments_eq_nil_iff`: the texts that have no segments.
* `segments_eq_split`: no part is empty if there is one more of those that are not than there are
  separators.
* `splitOnce_eq_some_iff`: where a text is split at its first separator.
-/

namespace TenantSettings.Text

variable {p : Char → Bool}

/-- Splitting is that of the standard library. -/
lemma split_eq_splitOnP (p : Char → Bool) (cs : List Char) : split p cs = cs.splitOnP p := by
  induction cs with
  | nil => exact List.splitOnP_nil.symm
  | cons c cs ih =>
      rw [split, List.splitOnP_cons_eq_if_modifyHead, ← ih]
      obtain ⟨part, rest, parts⟩ := List.exists_cons_of_ne_nil (split_ne_nil p cs)
      rw [parts, List.modifyHead_cons]

/-- A part holds characters of the text that are no separators. -/
lemma mem_of_mem_split {cs part : List Char} (mem : part ∈ split p cs) :
    ∀ c ∈ part, c ∈ cs ∧ p c = false := by
  -- a character starts a new part or goes to the front of the first one
  induction cs generalizing part with
  | nil =>
      rw [split, List.mem_singleton] at mem
      simp [mem]
  | cons c cs ih =>
      rw [split] at mem
      split at mem
      · rcases List.mem_cons.mp mem with rfl | later
        · simp
        · exact fun d hd => (ih later d hd).imp_left (List.mem_cons_of_mem c)
      · next inner =>
          obtain ⟨first, rest, parts⟩ := List.exists_cons_of_ne_nil (split_ne_nil p cs)
          rw [parts] at mem ih
          rcases List.mem_cons.mp mem with rfl | later
          · intro d hd
            rcases List.mem_cons.mp hd with rfl | behind
            · exact ⟨List.mem_cons_self, Bool.eq_false_iff.mpr inner⟩
            · exact (ih List.mem_cons_self d behind).imp_left (List.mem_cons_of_mem c)
          · exact fun d hd =>
              (ih (List.mem_cons_of_mem first later) d hd).imp_left (List.mem_cons_of_mem c)

/-- A text without separators is its only part. -/
lemma split_of_free {cs : List Char} (free : ∀ c ∈ cs, p c = false) : split p cs = [cs] := by
  rw [split_eq_splitOnP, List.splitOnP_eq_singleton free]

/-- Characters that separate alike split alike. -/
lemma split_congr {q : Char → Bool} {cs : List Char} (same : ∀ c ∈ cs, p c = q c) :
    split p cs = split q cs := by
  induction cs with
  | nil => rfl
  | cons c cs ih =>
      have later := ih fun d hd => same d (List.mem_cons_of_mem c hd)
      rw [split, split, same c List.mem_cons_self, later]

/-- Parts that are joined by a separator are found again. -/
lemma split_join {c : Char} (sep : p c = true) {parts : List (List Char)} (more : parts ≠ [])
    (free : ∀ part ∈ parts, ∀ d ∈ part, p d = false) : split p (join [c] parts) = parts := by
  induction parts with
  | nil => exact absurd rfl more
  | cons part rest ih =>
      have here : ∀ d ∈ part, p d = false := free part List.mem_cons_self
      cases rest with
      | nil => exact split_of_free here
      | cons next rest =>
          have later := ih (List.cons_ne_nil next rest)
            fun other ho => free other (List.mem_cons_of_mem part ho)
          rw [join, List.append_assoc, List.singleton_append, split_eq_splitOnP,
            List.splitOnP_append_cons_of_forall_mem here c sep, ← split_eq_splitOnP, later]

/-- Parts that are not empty, and hold no separator. -/
def Proper (p : Char → Bool) (parts : List (List Char)) : Prop :=
  ∀ part ∈ parts, part ≠ [] ∧ ∀ c ∈ part, p c = false

lemma proper_segments (p : Char → Bool) (cs : List Char) : Proper p (segments p cs) := by
  intro part mem
  obtain ⟨whole, more⟩ := List.mem_filter.mp mem
  exact ⟨by simpa using more, fun c hc => (mem_of_mem_split whole c hc).2⟩

lemma mem_of_mem_segments {cs seg : List Char} (mem : seg ∈ segments p cs) {c : Char}
    (hc : c ∈ seg) : c ∈ cs :=
  (mem_of_mem_split (List.mem_filter.mp mem).1 c hc).1

/-- Of parts that are joined by a separator, those that are not empty are the segments. -/
lemma segments_join_free {c : Char} (sep : p c = true) {parts : List (List Char)}
    (free : ∀ part ∈ parts, ∀ d ∈ part, p d = false) :
    segments p (join [c] parts) = parts.filter (!·.isEmpty) := by
  cases parts with
  | nil => rfl
  | cons part rest => rw [segments, split_join sep (List.cons_ne_nil part rest) free]

/-- Proper parts that are joined by a separator are the segments of the text that they make. -/
lemma segments_join {c : Char} (sep : p c = true) {parts : List (List Char)}
    (h : Proper p parts) : segments p (join [c] parts) = parts := by
  rw [segments_join_free sep fun part mem => (h part mem).2]
  exact List.filter_eq_self.mpr fun part mem => by simpa using (h part mem).1

/-- Only texts of separators have no segments. -/
lemma segments_eq_nil_iff {cs : List Char} : segments p cs = [] ↔ ∀ c ∈ cs, p c = true := by
  induction cs with
  | nil => simp [segments, split]
  | cons c cs ih =>
      by_cases sep : p c = true
      · have same : segments p (c :: cs) = segments p cs := by simp [segments, split, sep]
        rw [same, ih, List.forall_mem_cons]
        exact (and_iff_right sep).symm
      · obtain ⟨part, rest, parts⟩ := List.exists_cons_of_ne_nil (split_ne_nil p cs)
        have more : segments p (c :: cs) ≠ [] := by simp [segments, split, sep, parts]
        rw [List.forall_mem_cons]
        exact iff_of_false more fun all => sep all.1

/-- If there is one segment more than there are separators, no part is empty. -/
lemma segments_eq_split {cs : List Char} (more : (segments p cs).length = cs.countP p + 1) :
    segments p cs = split p cs := by
  rw [← length_split p cs] at more
  exact List.filter_eq_self.mpr (List.length_filter_eq_length_iff.mp more)

/-- A text is split at a separator that has none in front of it. -/
lemma splitOnce_eq_some_iff {c : Char} {cs before after : List Char} :
    splitOnce c cs = some (before, after) ↔ cs = before ++ c :: after ∧ c ∉ before := by
  -- the first character is the separator or belongs to the front
  induction cs generalizing before with
  | nil => simp [splitOnce]
  | cons d cs ih =>
      rw [splitOnce]
      by_cases sep : d = c
      · subst sep
        rw [if_pos rfl, Option.some.injEq, Prod.mk.injEq]
        constructor
        · rintro ⟨rfl, rfl⟩
          exact ⟨rfl, List.not_mem_nil⟩
        · rintro ⟨same, free⟩
          cases before with
          | nil => exact ⟨rfl, (List.cons.inj same).2⟩
          | cons e front =>
              exact absurd (List.mem_cons.mpr (.inl (List.cons.inj same).1)) free
      · rw [if_neg sep, Option.map_eq_some_iff]
        constructor
        · rintro ⟨⟨front, rest⟩, found, same⟩
          obtain ⟨rfl, rfl⟩ := Prod.mk.inj same
          obtain ⟨rfl, free⟩ := ih.mp found
          exact ⟨rfl, by simp [Ne.symm sep, free]⟩
        · rintro ⟨same, free⟩
          cases before with
          | nil => exact absurd (List.cons.inj same).1 sep
          | cons e front =>
              obtain ⟨rfl, rest⟩ := List.cons.inj same
              exact ⟨(front, after), ih.mpr ⟨rest, fun mem => free (List.mem_cons_of_mem d mem)⟩,
                rfl⟩

/-! ### Texts that are joined -/

/-- A character of a text that is joined is the separator or one of a part. -/
lemma mem_join {c d : Char} {parts : List (List Char)} (mem : d ∈ join [c] parts) :
    d = c ∨ ∃ part ∈ parts, d ∈ part := by
  induction parts with
  | nil => cases mem
  | cons part rest ih =>
      cases rest with
      | nil => exact .inr ⟨part, List.mem_cons_self, mem⟩
      | cons next rest =>
          rw [join, List.mem_append, List.mem_append, List.mem_singleton] at mem
          rcases mem with (here | between) | later
          · exact .inr ⟨part, List.mem_cons_self, here⟩
          · exact .inl between
          · rcases ih later with between | ⟨other, ho, inside⟩
            · exact .inl between
            · exact .inr ⟨other, List.mem_cons_of_mem part ho, inside⟩

lemma head?_join (separator : List Char) {parts : List (List Char)}
    (more : ∀ part ∈ parts, part ≠ []) :
    (join separator parts).head? = parts.head?.bind List.head? := by
  cases parts with
  | nil => rfl
  | cons part rest =>
      obtain ⟨c, cs, rfl⟩ := List.exists_cons_of_ne_nil (more part List.mem_cons_self)
      cases rest <;> rfl

lemma getLast?_join (separator : List Char) {parts : List (List Char)}
    (more : ∀ part ∈ parts, part ≠ []) :
    (join separator parts).getLast? = parts.getLast?.bind List.getLast? := by
  induction parts with
  | nil => rfl
  | cons part rest ih =>
      cases rest with
      | nil => rfl
      | cons next rest =>
          have later := ih fun other ho => more other (List.mem_cons_of_mem part ho)
          rw [join, List.getLast?_append, later, List.getLast?_cons_cons]
          have found := List.getLast?_eq_some_getLast (List.cons_ne_nil next rest)
          have full := more _ (List.mem_cons_of_mem part (List.mem_of_getLast? found))
          rw [found, Option.bind_some, List.getLast?_eq_some_getLast full, Option.some_or]

end TenantSettings.Text

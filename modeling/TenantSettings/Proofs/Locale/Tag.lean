import TenantSettings.Locale
import TenantSettings.Proofs.Text.Split
import TenantSettings.Proofs.Unicode.Blank
import TenantSettings.Proofs.Unicode.Case

/-!
# Tags of locales

The tag of a parsed locale holds the segments of the written tag, the language in small letters and
the country in capitals, and they are found again in it. White space is taken off a written tag
before it is split, so that a blank behind a leading separator stays in the tag; it comes off when
the tag is parsed in its turn.

* `segments_normalize`: the segments of a tag that was put together from segments.
* `parse_eq_root_iff`: the tags that name the root.
* `language_parse`, `country_parse`: the language and the country of a parsed locale.
* `parse_tag_parse_iff`: which tags name, parsed, the locale that they are the tag of;
  `parse_tag_of_leading_separator`, one that does not.
* `parse_eq_parse_iff`: which written tags name one locale.
-/

namespace TenantSettings.Locale

open Text Unicode

/-! ### Segments in the case of a locale -/

/-- Segments as a locale has them: the first one small, the second one in capitals. -/
def recase : List (List Char) → List (List Char)
  | [] => []
  | [language] => [toLowerChars language]
  | language :: country :: variants =>
    toLowerChars language :: toUpperChars country :: variants

lemma normalize_eq_join (segs : List (List Char)) : normalize segs = join ['_'] (recase segs) := by
  cases segs with
  | nil => rfl
  | cons language rest => cases rest <;> rfl

lemma length_recase (segs : List (List Char)) : (recase segs).length = segs.length := by
  cases segs with
  | nil => rfl
  | cons language rest => cases rest <;> rfl

/-- Segments that have the case of a locale keep it. -/
lemma recase_recase (segs : List (List Char)) : recase (recase segs) = recase segs := by
  cases segs with
  | nil => rfl
  | cons language rest =>
      cases rest with
      | nil => rw [recase, recase, toLowerChars_toLowerChars]
      | cons country variants =>
          rw [recase, recase, toLowerChars_toLowerChars, toUpperChars_toUpperChars]

/-- A separator is one of two characters, neither of them a letter. -/
lemma caseless_isSeparator : Caseless isSeparator := by
  have spans : isSeparator = member [.single 0x2D, .single 0x5F] := by
    funext c
    rw [Bool.eq_iff_iff]
    simp [isSeparator, member, Span.contains_single, Char.ext_iff, UInt32.ext_iff, or_comm]
  rw [spans]
  exact caseless_member (by decide +kernel) (by decide +kernel)

lemma isWhiteSpace_of_isSeparator (c : Char) (sep : isSeparator c = true) :
    isWhiteSpace c = false := by
  rcases Bool.or_eq_true_iff.mp sep with h | h <;> rw [eq_of_beq h] <;> decide

/-- Joined, the segments of a locale are the written ones in another case. -/
lemma recased_join {p : Char → Bool} (h : Caseless p) (segs : List (List Char)) :
    Recased p (join ['_'] segs) (join ['_'] (recase segs)) := by
  have behind (first last : List Char) (rest : List (List Char)) (case : Recased p first last) :
      Recased p (join ['_'] (first :: rest)) (join ['_'] (last :: rest)) := by
    cases rest with
    | nil => exact case
    | cons next rest => exact (case.append (.refl p ['_'])).append (.refl p _)
  cases segs with
  | nil => exact .nil
  | cons language rest =>
      have small := recased_toLowerChars h language
      cases rest with
      | nil => exact small
      | cons country variants =>
          exact (small.append (.refl p ['_'])).append
            (behind country _ variants (recased_toUpperChars h country))

/-- In the case of a locale, segments are as proper as they were. -/
lemma proper_recase {segs : List (List Char)} (h : Proper isSeparator segs) :
    Proper isSeparator (recase segs) := by
  -- a change of case neither empties a segment nor brings a separator into it
  have kept {seg seg' : List Char} (proper : seg ≠ [] ∧ ∀ c ∈ seg, isSeparator c = false)
      (case : Recased isSeparator seg seg') : seg' ≠ [] ∧ ∀ d ∈ seg', isSeparator d = false := by
    refine ⟨fun gone => proper.1 (case.eq_nil_iff.mp gone), fun d hd => ?_⟩
    obtain ⟨c, hc, same⟩ := case.exists_of_mem hd
    rw [same, proper.2 c hc]
  have small (seg : List Char) := recased_toLowerChars caseless_isSeparator seg
  have capital (seg : List Char) := recased_toUpperChars caseless_isSeparator seg
  cases segs with
  | nil => exact h
  | cons language rest =>
      have first := kept (h language List.mem_cons_self) (small language)
      cases rest with
      | nil => simpa [Proper, recase] using first
      | cons country variants =>
          have second := kept (h country (by simp)) (capital country)
          intro seg mem
          rcases List.mem_cons.mp mem with rfl | mem
          · exact first
          · rcases List.mem_cons.mp mem with rfl | mem
            · exact second
            · exact h seg (by simp [mem])

/-- The segments of a tag that was put together from segments. -/
lemma segments_normalize {segs : List (List Char)} (h : Proper isSeparator segs) :
    segments isSeparator (normalize segs) = recase segs := by
  rw [normalize_eq_join, segments_join (by decide) (proper_recase h)]

/-! ### Parsing -/

/-- The segments that a written tag is parsed into. -/
def written (tag : String) : List (List Char) := segments isSeparator (trimChars tag.toList)

lemma proper_written (tag : String) : Proper isSeparator (written tag) := proper_segments _ _

lemma toList_tag_parse (tag : String) : (parse tag).tag.toList = normalize (written tag) :=
  String.toList_ofList

/-- Only a tag without segments names the root. -/
lemma parse_eq_root_iff {tag : String} : parse tag = .root ↔ written tag = [] := by
  refine ⟨fun root => ?_, fun bare => ?_⟩
  · have empty : normalize (written tag) = [] := by
      rw [← toList_tag_parse, root]
      rfl
    have recased : recase (written tag) = [] := by
      rw [← segments_normalize (proper_written tag), empty]
      rfl
    rw [← List.length_eq_zero_iff, ← length_recase, recased, List.length_nil]
  · show (⟨String.ofList (normalize (written tag))⟩ : Locale) = .root
    rw [bare]
    rfl

lemma parse_eq_parse_iff_recase (s t : String) :
    parse s = parse t ↔ recase (written s) = recase (written t) := by
  refine ⟨fun same => ?_, fun same => ?_⟩
  · have tags : normalize (written s) = normalize (written t) := by
      rw [← toList_tag_parse, same, toList_tag_parse]
    rw [← segments_normalize (proper_written s), tags, segments_normalize (proper_written t)]
  · show (⟨String.ofList (normalize (written s))⟩ : Locale)
      = ⟨String.ofList (normalize (written t))⟩
    rw [normalize_eq_join, normalize_eq_join, same]

/-- The parts of a parsed tag; the root locale has an empty one. -/
lemma parts_parse (tag : String) :
    (parse tag).parts = if written tag = [] then [[]] else recase (written tag) := by
  rw [parts, toList_tag_parse, normalize_eq_join]
  split
  · next bare => rw [bare]; rfl
  · next more =>
      refine split_join (by decide) (fun gone => more ?_) fun seg mem c hc => ?_
      · rw [← List.length_eq_zero_iff, ← length_recase, gone]
        rfl
      · have inner := (proper_recase (proper_written tag) seg mem).2 c hc
        exact (Bool.or_eq_false_iff.mp inner).1

/-- The language of a parsed locale is the first segment of the tag in small letters. -/
theorem language_parse (tag : String) :
    (parse tag).language = String.ofList (toLowerChars ((written tag).headD [])) := by
  rw [language, parts_parse]
  cases written tag with
  | nil => rfl
  | cons language rest => cases rest <;> rfl

/-- The country of a parsed locale is the second segment of the tag in capitals. -/
theorem country_parse (tag : String) :
    (parse tag).country = (written tag)[1]?.map fun seg => String.ofList (toUpperChars seg) := by
  rw [country, parts_parse]
  cases written tag with
  | nil => rfl
  | cons language rest => cases rest <;> rfl

/-! ### Tags that are parsed again -/

/-- A text in another case has white space at an end exactly if the text itself has it there. -/
lemma trimmed_iff_of_recased {cs ds : List Char} (h : Recased isWhiteSpace cs ds) :
    Trimmed ds ↔ Trimmed cs := by
  have alike {o o' : Option Char} (same : o.map isWhiteSpace = o'.map isWhiteSpace) :
      (∀ c ∈ o, isWhiteSpace c = false) ↔ ∀ c ∈ o', isWhiteSpace c = false := by
    cases o <;> cases o' <;> simp_all
  exact ⟨fun ends => ⟨(alike h.map_head?).mp ends.front, (alike h.map_getLast?).mp ends.back⟩,
    fun ends => ⟨(alike h.map_head?).mpr ends.front, (alike h.map_getLast?).mpr ends.back⟩⟩

/-- A tag has white space at an end exactly if its outer segments have it there. -/
lemma trimmed_normalize_iff {segs : List (List Char)} (h : Proper isSeparator segs) :
    Trimmed (normalize segs) ↔
      (∀ first ∈ segs.head?, ∀ c ∈ first.head?, isWhiteSpace c = false)
        ∧ ∀ last ∈ segs.getLast?, ∀ c ∈ last.getLast?, isWhiteSpace c = false := by
  have full : ∀ seg ∈ segs, seg ≠ [] := fun seg mem => (h seg mem).1
  -- case does not matter here, and the ends of a tag are those of its outer segments
  rw [normalize_eq_join, trimmed_iff_of_recased (recased_join caseless_isWhiteSpace segs)]
  refine ⟨fun ends => ⟨fun first hf c hc => ends.front c ?_, fun last hl c hc => ends.back c ?_⟩,
    fun ends => ⟨fun c hc => ?_, fun c hc => ?_⟩⟩
  · rw [head?_join _ full]
    exact Option.mem_bind_iff.mpr ⟨first, hf, hc⟩
  · rw [getLast?_join _ full]
    exact Option.mem_bind_iff.mpr ⟨last, hl, hc⟩
  · rw [head?_join _ full] at hc
    obtain ⟨first, hf, hc⟩ := Option.mem_bind_iff.mp hc
    exact ends.1 first hf c hc
  · rw [getLast?_join _ full] at hc
    obtain ⟨last, hl, hc⟩ := Option.mem_bind_iff.mp hc
    exact ends.2 last hl c hc

/-- Underscores are the only separators in a tag. -/
lemma isSeparator_eq_of_mem_normalize {segs : List (List Char)} (h : Proper isSeparator segs)
    {c : Char} (mem : c ∈ normalize segs) : isSeparator c = (c == '_') := by
  rw [normalize_eq_join] at mem
  rcases mem_join mem with rfl | ⟨seg, hs, inside⟩
  · rfl
  · have other := (proper_recase h seg hs).2 c inside
    rw [other, (Bool.or_eq_false_iff.mp other).1]

/-- A tag has as many segments as it has parts between separators. -/
lemma length_eq_of_normalize {segs : List (List Char)} (h : Proper isSeparator segs)
    (more : segs ≠ []) : segs.length = (normalize segs).countP isSeparator + 1 := by
  have more' : recase segs ≠ [] := by
    rwa [ne_eq, ← List.length_eq_zero_iff, length_recase, List.length_eq_zero_iff]
  calc segs.length
      = (recase segs).length := (length_recase segs).symm
    _ = (split isSeparator (normalize segs)).length := by
        rw [normalize_eq_join,
          split_join (by decide) more' fun seg mem => (proper_recase h seg mem).2]
    _ = (normalize segs).countP isSeparator + 1 := length_split _ _

/-- Trimmed and taken apart again, a tag yields itself exactly if nothing is trimmed off. -/
lemma normalize_segments_trimChars_iff {segs : List (List Char)} (h : Proper isSeparator segs) :
    normalize (segments isSeparator (trimChars (normalize segs))) = normalize segs
      ↔ Trimmed (normalize segs) := by
  constructor
  · intro same
    by_cases more : segs = []
    · subst more
      exact ⟨by simp [normalize], by simp [normalize]⟩
    · -- nothing of the tag gets lost, so no segment of the trimmed tag does
      have again : recase (segments isSeparator (trimChars (normalize segs))) = recase segs := by
        rw [← segments_normalize (proper_segments _ _), same, segments_normalize h]
      have whole : segments isSeparator (trimChars (normalize segs))
          = split isSeparator (trimChars (normalize segs)) := segments_eq_split <| by
        rw [← length_recase, again, length_recase, length_eq_of_normalize h more,
          countP_trimChars isWhiteSpace_of_isSeparator]
      have underscores : split isSeparator (trimChars (normalize segs))
          = split (· == '_') (trimChars (normalize segs)) :=
        split_congr fun c mem => isSeparator_eq_of_mem_normalize h (mem_of_mem_trimChars mem)
      have joined := join_split '_' (trimChars (normalize segs))
      -- so the tag is the trimmed one in another case, and has as little white space at its ends
      have case := recased_join caseless_isWhiteSpace
        (split isSeparator (trimChars (normalize segs)))
      rw [← normalize_eq_join, ← whole, same, whole, underscores, joined] at case
      exact (trimmed_iff_of_recased case).mpr (trimmed_trimChars _)
  · intro ends
    calc normalize (segments isSeparator (trimChars (normalize segs)))
        = normalize (segments isSeparator (normalize segs)) := by
          rw [trimChars_eq_self_iff.mpr ends]
      _ = normalize (recase segs) := by rw [segments_normalize h]
      _ = normalize segs := by rw [normalize_eq_join, recase_recase, ← normalize_eq_join]

/-- Parsed again, the tag of a parsed locale names that locale exactly if the first segment that it
was parsed from does not start with white space and the last one does not end with it. -/
theorem parse_tag_parse_iff (tag : String) :
    parse (parse tag).tag = parse tag ↔
      (∀ first ∈ (written tag).head?, ∀ c ∈ first.head?, isWhiteSpace c = false)
        ∧ ∀ last ∈ (written tag).getLast?, ∀ c ∈ last.getLast?, isWhiteSpace c = false := by
  have proper := proper_written tag
  have tags : parse (parse tag).tag = parse tag
      ↔ normalize (written (parse tag).tag) = normalize (written tag) := by
    rw [Locale.mk.injEq]
    exact String.ofList_inj
  rw [tags, written, toList_tag_parse, normalize_segments_trimChars_iff proper,
    trimmed_normalize_iff proper]

/-- A blank behind a leading separator stays at the front of the tag, and is taken off when the tag
is parsed again. -/
theorem parse_tag_of_leading_separator :
    parse "_ en" = ⟨" en"⟩ ∧ parse (parse "_ en").tag = ⟨"en"⟩
      ∧ parse (parse "_ en").tag ≠ parse "_ en" := by
  decide +kernel

/-! ### Tags of one locale -/

/-- ASCII characters, none of them white space. -/
def Plain (tag : String) : Prop := ∀ c ∈ tag.toList, c.toNat < 128 ∧ isWhiteSpace c = false

instance (tag : String) : Decidable (Plain tag) :=
  List.decidableBAll (fun c : Char => c.toNat < 128 ∧ isWhiteSpace c = false) tag.toList

/-- The texts between the separators of a written tag that are not empty. -/
def cut (tag : String) : List (List Char) := (tag.toList.splitOnP isSeparator).filter (· ≠ [])

/-- Segments that name one locale: as many of them, the first two the same when case is disregarded,
the others the same. -/
structure SameName (l l' : List (List Char)) : Prop where
  length : l.length = l'.length
  names : (l.take 2).map (·.map Char.toLower) = (l'.take 2).map (·.map Char.toLower)
  variants : l.drop 2 = l'.drop 2

/-- Without white space, a written tag is parsed into what stands between its separators. -/
lemma written_of_plain {tag : String} (plain : Plain tag) : written tag = cut tag := by
  have whole : trimChars tag.toList = tag.toList :=
    trimChars_eq_self_iff.mpr ⟨fun c hc => (plain c (List.mem_of_head? hc)).2,
      fun c hc => (plain c (List.mem_of_getLast? hc)).2⟩
  rw [written, whole, segments, split_eq_splitOnP, cut]
  refine List.filter_congr fun seg _ => ?_
  cases seg <;> rfl

/-- The segments of a plain tag are ASCII. -/
lemma ascii_of_mem_written {tag : String} (plain : Plain tag) {seg : List Char}
    (mem : seg ∈ written tag) {c : Char} (hc : c ∈ seg) : c.toNat < 128 :=
  (plain c (mem_of_mem_trimChars (mem_of_mem_segments mem hc))).1

/-- ASCII segments become the same in the case of a locale exactly if they name one locale. -/
lemma recase_eq_recase_iff {l l' : List (List Char)} (hl : ∀ seg ∈ l, ∀ c ∈ seg, c.toNat < 128)
    (hl' : ∀ seg ∈ l', ∀ c ∈ seg, c.toNat < 128) : recase l = recase l' ↔ SameName l l' := by
  by_cases length : l.length = l'.length
  · have names : SameName l l' ↔
        (l.take 2).map (·.map Char.toLower) = (l'.take 2).map (·.map Char.toLower)
          ∧ l.drop 2 = l'.drop 2 :=
      ⟨fun h => ⟨h.names, h.variants⟩, fun h => ⟨length, h.1, h.2⟩⟩
    rw [names]
    cases l with
    | nil => simp [List.length_eq_zero_iff.mp length.symm]
    | cons a as =>
        obtain ⟨b, bs, rfl⟩ := List.exists_cons_of_length_eq_add_one length.symm
        -- language and country are compared without case, and in ASCII both mappings are simple
        have small : toLowerChars a = toLowerChars b ↔ a.map Char.toLower = b.map Char.toLower := by
          rw [toLowerChars_of_ascii (hl a List.mem_cons_self),
            toLowerChars_of_ascii (hl' b List.mem_cons_self)]
        cases as with
        | nil => simp [recase, small, List.length_eq_zero_iff.mp (Nat.succ.inj length).symm]
        | cons a' as =>
            obtain ⟨b', bs, rfl⟩ := List.exists_cons_of_length_eq_add_one (Nat.succ.inj length).symm
            have capital : toUpperChars a' = toUpperChars b'
                ↔ a'.map Char.toLower = b'.map Char.toLower := by
              have ascii := hl a' (by simp)
              have ascii' := hl' b' (by simp)
              rw [toUpperChars_of_ascii ascii, toUpperChars_of_ascii ascii',
                map_toUpper_eq_iff ascii ascii']
            simp [recase, small, capital, and_assoc]
  · refine ⟨fun same => absurd ?_ length, fun same => absurd same.length length⟩
    rw [← length_recase, same, length_recase]

/-- Two plain tags are parsed into one locale exactly if what stands between their separators names
one locale; and the language of the locale is the first of it in small letters, empty where there is
none, and the country the second in capitals. -/
theorem parse_eq_parse_iff (s t : String) (plain : Plain s) (plain' : Plain t) :
    (parse s = parse t ↔ SameName (cut s) (cut t))
      ∧ (parse s).language = String.ofList (((cut s).headD []).map Char.toLower)
      ∧ (parse s).country = (cut s)[1]?.map fun seg => String.ofList (seg.map Char.toUpper) := by
  have ascii : ∀ seg ∈ written s, ∀ c ∈ seg, c.toNat < 128 :=
    fun _ mem _ hc => ascii_of_mem_written plain mem hc
  have ascii' : ∀ seg ∈ written t, ∀ c ∈ seg, c.toNat < 128 :=
    fun _ mem _ hc => ascii_of_mem_written plain' mem hc
  rw [← written_of_plain plain, ← written_of_plain plain']
  refine ⟨(parse_eq_parse_iff_recase s t).trans (recase_eq_recase_iff ascii ascii'), ?_, ?_⟩
  · rw [language_parse, toLowerChars_of_ascii]
    cases segs : written s with
    | nil => simp
    | cons seg rest => exact ascii seg (segs ▸ List.mem_cons_self)
  · rw [country_parse]
    cases country : (written s)[1]? with
    | none => rfl
    | some seg =>
        have letters := ascii seg (List.mem_of_getElem? country)
        simp only [Option.map_some, toUpperChars_of_ascii letters]

/-- Separators of both kinds, one of them leading and two in a row, and letters of both cases. -/
theorem parse_eq_parse_iff_separators :
    Plain "_EN-us-POSIX" ∧ Plain "en_US__POSIX" ∧ parse "_EN-us-POSIX" = parse "en_US__POSIX"
      ∧ (parse "_EN-us-POSIX").language = "en" ∧ (parse "_EN-us-POSIX").country = some "US" := by
  have plain : Plain "_EN-us-POSIX" := by decide
  have plain' : Plain "en_US__POSIX" := by decide
  obtain ⟨same, language, country⟩ := parse_eq_parse_iff _ _ plain plain'
  refine ⟨plain, plain', same.mpr ⟨by decide, by decide, by decide⟩, ?_, ?_⟩
  · rw [language]
    decide
  · rw [country]
    decide

end TenantSettings.Locale

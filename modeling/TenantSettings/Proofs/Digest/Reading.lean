import TenantSettings.Proofs.Digest.Listing
import TenantSettings.Proofs.Text.Marker
import TenantSettings.Proofs.Value.RoundTrip

/-!
# Listings are read back from what the digest covers

Nothing separates the name of a record from what it holds, nor one record from the next.  Stored
forms show their own end, and the keys of the schema hold nothing that could follow them; so the
text of a listing stands for one listing only as long as no profile id and no bundle key looks like
the start of what follows it.

* `Listing.PlainNames`: the names that do not.
* `Listing.valueText_append_inj`, `Listing.bundleText_append_inj`: one record, in front of others.
* `Listing.text_inj`: listings of such names are told apart by their texts.
-/

namespace TenantSettings

open Json

/-! ### Stored forms show their own end -/

lemma StoredValue.closed_toJson (v : StoredValue) : Closed v.toJson :=
  Writable.closed_object (toJson_faithful.writable v)

/-- Stored values are told apart in front of any text. -/
lemma StoredValue.chars_toJson_append_inj {v w : StoredValue} {s t : List Char}
    (same : chars v.toJson ++ s = chars w.toJson ++ t) : v = w ∧ s = t := by
  obtain ⟨forms, rest⟩ := v.closed_toJson.chars_append_inj w.closed_toJson same
  exact ⟨toJson_faithful.injective forms, rest⟩

lemma closed_bundleJson (m : Option (OrderedMap String String)) : Closed (bundleJson m) := by
  cases m with
  | none => exact closed_null
  | some m => exact Writable.closed_object ((OrderedMap.toJson_faithful .text).writable m)

/-- Texts of bundles are told apart by their stored forms. -/
lemma bundleJson_inj {m n : Option (OrderedMap String String)}
    (same : bundleJson m = bundleJson n) : m = n := by
  cases m with
  | none =>
      cases n with
      | none => rfl
      | some n => cases same
  | some m =>
      cases n with
      | none => cases same
      | some n => rw [(OrderedMap.toJson_faithful .text).injective same]

/-- Texts of bundles are told apart in front of any text. -/
lemma chars_bundleJson_append_inj {m n : Option (OrderedMap String String)} {s t : List Char}
    (same : chars (bundleJson m) ++ s = chars (bundleJson n) ++ t) : m = n ∧ s = t := by
  obtain ⟨forms, rest⟩ := (closed_bundleJson m).chars_append_inj (closed_bundleJson n) same
  exact ⟨bundleJson_inj forms, rest⟩

namespace Listing

/-! ### What follows a name -/

/-- The end of a profile id, and the start of the value that follows it. -/
def valueMark : List Char := "]\x7b\"syntax\":\"".toList

/-- The start of the texts that follow a bundle key. -/
def textsMark : List Char := "\x7b\"".toList

/-- What follows a bundle key without texts, where another one comes next. -/
def nullMark : List Char := "nullLocaleBundle:".toList

/-- No profile id and no bundle key of a listing holds what could follow it. -/
structure PlainNames (l : Listing) : Prop where
  profiles : ∀ e ∈ l.values, ∀ id ∈ e.1.2, ¬ valueMark <:+: id.toList
  keys : ∀ e ∈ l.bundles, ¬ textsMark <:+: e.1.2.toList ∧ ¬ nullMark <:+: e.1.2.toList

/-- A listing as a snapshot has it: the schema knows its settings, and where there are texts they
are not empty. -/
structure Sound (l : Listing) : Prop where
  settings : ∀ e ∈ l.values, e.1.1 ∈ Schema.all
  texts : ∀ e ∈ l.bundles, e.2 ≠ some .empty

/-! ### One stored value -/

/-- A profile id in brackets, where there is one. -/
def scopeChars : Option String → List Char
  | none => []
  | some id => '[' :: (id.toList ++ [']'])

/-- The description of a setting: what every description of one starts with, its key, and the
profile. -/
lemma toList_valueText (x : Setting) (profile : Option String) (v : StoredValue) :
    (valueText ((x, profile), v)).toList
      = "Setting:".toList ++ (x.key.toList ++ (scopeChars profile ++ chars v.toJson)) := by
  cases profile <;>
    simp [valueText, ItemKey.describe, ItemKey.ofSetting, Literal.text, StoredValue.render,
      Json.render, scopeChars]

/-- The value behind a profile id starts as every value does. -/
lemma exists_valueMark (v : StoredValue) : ∃ rest, ']' :: chars v.toJson = valueMark ++ rest := by
  have name : stringChars "syntax" = "\"syntax\"".toList := by decide
  let word := (Literal.text v.shape).toList.flatMap escapeChar ++ ['"']
  let rest := word ++ ',' :: membersChars [(some "value", v.content)]
  refine ⟨rest, ?_⟩
  show ']' :: '\x7b' :: (stringChars "syntax" ++ ':' :: '"' :: rest) = valueMark ++ rest
  rw [name]
  rfl

/-- A key of the schema is followed by a bracket or by a brace. -/
lemma exists_scope (profile : Option String) (v : StoredValue) (s : List Char) :
    ∃ c rest, scopeChars profile ++ (chars v.toJson ++ s) = [c] ++ rest
      ∧ (c = '[' ∨ c = '\x7b') := by
  cases profile with
  | none => exact ⟨'\x7b', _, rfl, .inr rfl⟩
  | some id => exact ⟨'[', _, rfl, .inl rfl⟩

/-- Behind the key, the profile id and the value are told apart in front of any text. -/
lemma scope_append_inj {profile profile' : Option String}
    (plain : ∀ id ∈ profile, ¬ valueMark <:+: id.toList)
    (plain' : ∀ id ∈ profile', ¬ valueMark <:+: id.toList) {v v' : StoredValue}
    {s s' : List Char}
    (same : scopeChars profile ++ (chars v.toJson ++ s)
      = scopeChars profile' ++ (chars v'.toJson ++ s')) :
    profile = profile' ∧ v = v' ∧ s = s' := by
  cases profile with
  | none =>
      cases profile' with
      | none => exact ⟨rfl, StoredValue.chars_toJson_append_inj same⟩
      | some id' => cases same
  | some id =>
      cases profile' with
      | none => cases same
      | some id' =>
          obtain ⟨rest, front⟩ := exists_valueMark v
          obtain ⟨rest', front'⟩ := exists_valueMark v'
          -- ids of any length: they end where the mark of a value begins, which no plain id holds
          have marked : id.toList ++ (valueMark ++ (rest ++ s))
              = id'.toList ++ (valueMark ++ (rest' ++ s')) := by
            rw [← List.append_assoc valueMark, ← front, ← List.append_assoc valueMark, ← front']
            simpa [scopeChars] using same
          have apart : Text.Apart valueMark valueMark := by decide
          obtain ⟨ids, behind⟩ := Text.append_marker_inj apart apart (plain id rfl)
            (plain' id' rfl) marked
          rw [← List.append_assoc valueMark, ← front, ← List.append_assoc valueMark, ← front',
            List.cons_append, List.cons_append, List.cons.injEq] at behind
          exact ⟨congrArg some (String.toList_inj.mp ids),
            StoredValue.chars_toJson_append_inj behind.2⟩

/-- Records of stored values are told apart in front of any text. -/
lemma valueText_append_inj {e e' : (Setting × Option String) × StoredValue}
    (known : e.1.1 ∈ Schema.all) (known' : e'.1.1 ∈ Schema.all)
    (plain : ∀ id ∈ e.1.2, ¬ valueMark <:+: id.toList)
    (plain' : ∀ id ∈ e'.1.2, ¬ valueMark <:+: id.toList) {s s' : List Char}
    (same : (valueText e).toList ++ s = (valueText e').toList ++ s') : e = e' ∧ s = s' := by
  obtain ⟨⟨x, profile⟩, v⟩ := e
  obtain ⟨⟨x', profile'⟩, v'⟩ := e'
  simp only [toList_valueText, List.append_assoc, List.append_cancel_left_eq] at same
  -- the key ends at the first bracket or brace, since no key of the schema holds either
  have free : ∀ (x : Setting) (c : Char), x ∈ Schema.all → c = '[' ∨ c = '\x7b' →
      ¬ [c] <:+: x.key.toList := by
    intro x c hx hc
    rw [List.singleton_infix_iff]
    rcases hc with rfl | rfl
    · exact (Schema.notMem_key hx).1
    · exact (Schema.notMem_key hx).2
  obtain ⟨c, rest, front, hc⟩ := exists_scope profile v s
  obtain ⟨c', rest', front', hc'⟩ := exists_scope profile' v' s'
  rw [front, front'] at same
  obtain ⟨keys, behind⟩ := Text.append_marker_inj (by simp [Text.Apart]) (by simp [Text.Apart])
    (free x c' known hc') (free x' c known' hc) same
  obtain rfl := Schema.eq_of_key_eq known known' (String.toList_inj.mp keys)
  -- with the keys out of the way both texts begin with the scope
  rw [← front, ← front'] at behind
  obtain ⟨rfl, rfl, rest⟩ := scope_append_inj plain plain' behind
  exact ⟨rfl, rest⟩

/-! ### The texts under one bundle key -/

/-- The description of a bundle key: what every description of one starts with, the bundle, a dash
and the key. -/
lemma toList_bundleText (b : Bundle) (key : String) (m : Option (OrderedMap String String)) :
    (bundleText ((b, key), m)).toList
      = "LocaleBundle:".toList
        ++ ((Literal.text b).toList ++ (['-'] ++ (key.toList ++ chars (bundleJson m)))) := by
  simp [bundleText, ItemKey.describe, ItemKey.ofBundle, ItemKey.bundleId, Literal.text, Json.render]

/-- Every record of a bundle starts alike. -/
lemma exists_bundleText (e : (Bundle × String) × Option (OrderedMap String String))
    (s : List Char) : ∃ t, (bundleText e).toList ++ s = "LocaleBundle:".toList ++ t := by
  obtain ⟨⟨b, key⟩, m⟩ := e
  exact ⟨_, by rw [toList_bundleText, List.append_assoc]⟩

/-- The words of the bundles differ. -/
lemma text_bundle_inj {b b' : Bundle} (same : Literal.text b = Literal.text b') : b = b' := by
  have names : ItemKey.bundleId b "" = ItemKey.bundleId b' "" := by
    rw [ItemKey.bundleId, ItemKey.bundleId, same]
  exact (ItemKey.bundleId_inj names).1

/-- What follows bundle keys does not start inside one another. -/
lemma apart_marks {m n : List Char} (hm : m = textsMark ∨ m = nullMark)
    (hn : n = textsMark ∨ n = nullMark) : Text.Apart m n := by
  rcases hm with rfl | rfl <;> rcases hn with rfl | rfl <;> decide

/-- Behind a bundle key, in front of another record of a bundle, stands one of two marks. -/
lemma exists_bundleMark {m : Option (OrderedMap String String)} (filled : m ≠ some .empty)
    (s : List Char) :
    ∃ mark rest, chars (bundleJson m) ++ ("LocaleBundle:".toList ++ s) = mark ++ rest
      ∧ (mark = textsMark ∨ mark = nullMark) := by
  cases m with
  | none => exact ⟨nullMark, s, rfl, .inr rfl⟩
  | some m =>
      obtain ⟨entries, nodup⟩ := m
      cases entries with
      | nil => exact absurd rfl filled
      | cons e rest =>
          obtain ⟨cs, front⟩ :
              ∃ cs, chars (bundleJson (some ⟨e :: rest, nodup⟩)) = textsMark ++ cs := by
            cases rest <;> exact ⟨_, rfl⟩
          exact ⟨textsMark, _, by rw [front, List.append_assoc], .inl rfl⟩

/-- Records of bundle keys are told apart in front of other such records. -/
lemma bundleText_append_inj {e e' : (Bundle × String) × Option (OrderedMap String String)}
    (filled : e.2 ≠ some .empty) (filled' : e'.2 ≠ some .empty)
    (plain : ¬ textsMark <:+: e.1.2.toList ∧ ¬ nullMark <:+: e.1.2.toList)
    (plain' : ¬ textsMark <:+: e'.1.2.toList ∧ ¬ nullMark <:+: e'.1.2.toList) {s s' : List Char}
    (same : (bundleText e).toList ++ ("LocaleBundle:".toList ++ s)
      = (bundleText e').toList ++ ("LocaleBundle:".toList ++ s')) : e = e' ∧ s = s' := by
  obtain ⟨⟨b, key⟩, m⟩ := e
  obtain ⟨⟨b', key'⟩, m'⟩ := e'
  simp only [toList_bundleText, List.append_assoc, List.append_cancel_left_eq] at same
  -- the bundle ends at the first dash, since the word of no bundle holds one
  have dashless : ∀ b : Bundle, ¬ ['-'] <:+: (Literal.text b).toList := by
    intro b
    rw [List.singleton_infix_iff]
    exact ItemKey.dash_notMem_text b
  obtain ⟨names, behind⟩ := Text.append_marker_inj (by simp [Text.Apart]) (by simp [Text.Apart])
    (dashless b) (dashless b') same
  obtain rfl := text_bundle_inj (String.toList_inj.mp names)
  obtain ⟨mark, rest, front, hmark⟩ := exists_bundleMark filled s
  obtain ⟨mark', rest', front', hmark'⟩ := exists_bundleMark filled' s'
  rw [List.append_cancel_left_eq, front, front'] at behind
  -- the key ends where one of the two marks begins, which no plain key holds
  have free : ∀ {key : String} {mark : List Char},
      ¬ textsMark <:+: key.toList ∧ ¬ nullMark <:+: key.toList →
      mark = textsMark ∨ mark = nullMark → ¬ mark <:+: key.toList := by
    rintro key mark ⟨texts, null⟩ (rfl | rfl)
    · exact texts
    · exact null
  obtain ⟨keys, texts⟩ := Text.append_marker_inj (apart_marks hmark hmark')
    (apart_marks hmark' hmark) (free plain hmark') (free plain' hmark) behind
  rw [← front, ← front'] at texts
  obtain rfl := String.toList_inj.mp keys
  obtain ⟨rfl, ends⟩ := chars_bundleJson_append_inj texts
  exact ⟨rfl, List.append_cancel_left ends⟩

/-! ### Listings -/

/-- Records of stored values are read one by one; what follows them is told from a further one by
its first letter. -/
lemma values_append_inj {l l' : List ((Setting × Option String) × StoredValue)}
    (known : ∀ e ∈ l, e.1.1 ∈ Schema.all) (known' : ∀ e ∈ l', e.1.1 ∈ Schema.all)
    (plain : ∀ e ∈ l, ∀ id ∈ e.1.2, ¬ valueMark <:+: id.toList)
    (plain' : ∀ e ∈ l', ∀ id ∈ e.1.2, ¬ valueMark <:+: id.toList) {s s' : List Char}
    (other : s.head? ≠ some 'S') (other' : s'.head? ≠ some 'S')
    (same : l.flatMap (fun e => (valueText e).toList) ++ s
      = l'.flatMap (fun e => (valueText e).toList) ++ s') : l = l' ∧ s = s' := by
  -- each record starts with an S, and what follows them all does not
  have front : ∀ (e : (Setting × Option String) × StoredValue) (t : List Char),
      ((valueText e).toList ++ t).head? = some 'S' := by
    rintro ⟨⟨x, profile⟩, v⟩ t
    rw [toList_valueText]
    rfl
  -- anything may follow a record, and only what starts otherwise ends them
  refine Text.flatMap_append_inj
    (fun e => e.1.1 ∈ Schema.all ∧ ∀ id ∈ e.1.2, ¬ valueMark <:+: id.toList)
    (fun _ => True) (fun t => t.head? ≠ some 'S') ?_ ?_ ?_ ?_
    (fun e mem => ⟨known e mem, plain e mem⟩) (fun e mem => ⟨known' e mem, plain' e mem⟩)
    other other' same
  · intro e e' s s' he he' _ _ same
    exact valueText_append_inj he.1 he'.1 he.2 he'.2 same
  · exact fun _ _ => trivial
  · exact fun _ => trivial
  · intro e s t _ _ ended same
    exact ended (same ▸ front e s)

/-- Records of bundle keys are read one by one, up to the start of one that marks their end. -/
lemma bundles_append_inj {l l' : List ((Bundle × String) × Option (OrderedMap String String))}
    (filled : ∀ e ∈ l, e.2 ≠ some .empty) (filled' : ∀ e ∈ l', e.2 ≠ some .empty)
    (plain : ∀ e ∈ l, ¬ textsMark <:+: e.1.2.toList ∧ ¬ nullMark <:+: e.1.2.toList)
    (plain' : ∀ e ∈ l', ¬ textsMark <:+: e.1.2.toList ∧ ¬ nullMark <:+: e.1.2.toList)
    (same : l.flatMap (fun e => (bundleText e).toList) ++ "LocaleBundle:".toList
      = l'.flatMap (fun e => (bundleText e).toList) ++ "LocaleBundle:".toList) : l = l' := by
  -- here a record is told apart only if one more begins behind it, be it the end mark
  refine (Text.flatMap_append_inj
    (fun e => e.2 ≠ some .empty ∧ ¬ textsMark <:+: e.1.2.toList ∧ ¬ nullMark <:+: e.1.2.toList)
    (fun t => ∃ u, t = "LocaleBundle:".toList ++ u) (fun t => t = "LocaleBundle:".toList)
    ?_ ?_ ?_ ?_
    (fun e mem => ⟨filled e mem, plain e mem⟩) (fun e mem => ⟨filled' e mem, plain' e mem⟩)
    rfl rfl same).1
  · rintro e e' _ _ he he' ⟨s, rfl⟩ ⟨s', rfl⟩ same
    obtain ⟨rfl, behind⟩ := bundleText_append_inj he.1 he'.1 he.2 he'.2 same
    exact ⟨rfl, by rw [behind]⟩
  · exact fun _ _ => exists_bundleText _ _
  · exact fun ended => ⟨[], by rw [ended, List.append_nil]⟩
  · rintro ⟨⟨b, key⟩, m⟩ _ _ _ ⟨s, rfl⟩ rfl same
    -- the record in front of the end would have to be empty, but it has a dash at least
    have lengths := congrArg List.length same
    rw [toList_bundleText] at lengths
    simp only [List.length_append, List.length_cons, List.length_nil] at lengths
    omega

/-- The characters of the text of a listing: its values, and then its texts of bundles. -/
lemma toList_text (l : Listing) :
    l.text.toList = l.values.flatMap (fun e => (valueText e).toList)
      ++ l.bundles.flatMap fun e => (bundleText e).toList := by
  simp [text, String.toList_join, List.flatMap_map]

/-- Listings whose names look like nothing that could follow them are told apart by their texts. -/
theorem text_inj {l l' : Listing} (sound : l.Sound) (sound' : l'.Sound) (plain : l.PlainNames)
    (plain' : l'.PlainNames) (same : l.text = l'.text) : l = l' := by
  have chars : l.text.toList ++ "LocaleBundle:".toList = l'.text.toList ++ "LocaleBundle:".toList :=
    congrArg (·.toList ++ _) same
  rw [toList_text, toList_text, List.append_assoc, List.append_assoc] at chars
  -- both parts of a listing are read in turn; an end mark is put behind them for the second
  have other : ∀ bundles : List ((Bundle × String) × Option (OrderedMap String String)),
      (bundles.flatMap (fun e => (bundleText e).toList) ++ "LocaleBundle:".toList).head?
        ≠ some 'S' := by
    intro bundles
    cases bundles with
    | nil => decide
    | cons e rest =>
        rw [List.flatMap_cons, List.append_assoc]
        obtain ⟨s, front⟩ := exists_bundleText e
          (rest.flatMap (fun e => (bundleText e).toList) ++ "LocaleBundle:".toList)
        rw [front]
        simp
  obtain ⟨values, behind⟩ := values_append_inj sound.settings sound'.settings plain.profiles
    plain'.profiles (other _) (other _) chars
  have bundles := bundles_append_inj sound.texts sound'.texts plain.keys plain'.keys behind
  cases l
  cases l'
  cases values
  cases bundles
  rfl

end Listing

end TenantSettings

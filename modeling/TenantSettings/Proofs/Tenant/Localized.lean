import TenantSettings.Proofs.Locale.Lookup
import TenantSettings.Proofs.Tenant.Transparency
import TenantSettings.Store.Snapshot

/-!
# Localized messages and texts

A message that is read for a locale and a bundle text that is looked up for it both go through a map
by locales, the one when it is read and the other when the texts are handed out. Both are found as
`Locale.LooksUp` says: they are what is selected from the stored map, but where tags name one locale
twice.

* `Tenant.answer_email`, `Tenant.answer_localizedBundle`: messages and texts that are stored.
* `Tenant.localized_looksUp`: what is found for a locale, after any run of requests.
* `Tenant.localized_parts_from_select`: where the tags name one locale twice.
-/

namespace TenantSettings

namespace Tenant

open TenantSettings.Locale

variable (t : Tenant) {store : Store}

/-- A stored map of messages is read by way of the map by locales. -/
lemma answer_email {profile scope : Option String} {x : Setting} {m : OrderedMap String EmailItem}
    (reached : (t.reader profile).scope x = .ok scope)
    (stored : store.answer (.value x scope) = .localizedEmail m) (desired : Locale) :
    t.answer store (.read profile x (.email desired)) = .ok (best desired (byLocale m)) := by
  rw [answer, Read.result, Reader.carryOut_read, reached]
  simp only [stored]
  rfl

/-- The texts that are handed out for a stored map are the map by locales; for a map without texts
there are none. -/
lemma answer_localizedBundle {b : Bundle} {key : String} {m : OrderedMap String String}
    (stored : store.answer (.bundle b key) = some m) :
    ∃ texts : Option (OrderedMap Locale String),
      t.answer store (.localizedBundle b key) = .ok texts
        ∧ ∀ desired, texts.bind (best desired) = best desired (byLocale m) := by
  have read : t.answer store (.localizedBundle b key) = .ok (localize m) := by
    show Except.ok ((store.answer (.bundle b key)).bind localize) = _
    rw [stored]
    rfl
  refine ⟨localize m, read, fun desired => ?_⟩
  rw [localize]
  split
  · next bare =>
      have unchosen : chosen desired m = none := by
        rw [chosen, OrderedMap.keys, List.isEmpty_iff.mp bare]
        exact resolve_nil desired
      rw [best_byLocale, unchosen]
      rfl
  · rfl

/-- After any run of requests, and for every locale: where a map of messages is stored for a
setting, the message that is read for the locale is found in it as `Locale.LooksUp` says; and where
a map of texts is stored for a bundle key, the text that the texts handed out have for the available
locale that suits best is found in it in the same way. -/
theorem localized_looksUp (store : Store) (requests : List Request) (desired : Locale) :
    let served := fun r : Request => (t.serve store (t.memoryAfter store .empty requests) r).value.1
    (∀ (profile scope : Option String) (x : Setting) (m : OrderedMap String EmailItem),
        (t.reader profile).scope x = .ok scope →
        store.answer (.value x scope) = .localizedEmail m →
        ∃ found, served (.read profile x (.email desired)) = .ok found ∧ LooksUp desired m found)
      ∧ ∀ (b : Bundle) (key : String) (m : OrderedMap String String),
          store.answer (.bundle b key) = some m →
          ∃ texts : Option (OrderedMap Locale String),
            served (.localizedBundle b key) = .ok texts
              ∧ LooksUp desired m (texts.bind (best desired)) := by
  intro served
  have answered : ∀ r, served r = t.answer store r :=
    fun r => t.serve_memoryAfter_eq_answer store requests r
  -- messages are looked up by the reader, and texts by whoever is handed the map
  constructor
  · intro profile scope x m reached stored
    exact ⟨_, (answered _).trans (t.answer_email reached stored desired), looksUp_byLocale desired m⟩
  · intro b key m stored
    obtain ⟨texts, read, same⟩ := t.answer_localizedBundle stored
    refine ⟨texts, (answered _).trans read, ?_⟩
    rw [same]
    exact looksUp_byLocale desired m

/-- A message and a text in two languages, looked up for another country of one of them. -/
theorem localized_looksUp_other_country :
    let english : EmailItem := ⟨"user@example.org", "help@example.org", "Hello", "Hello!", none⟩
    let german : EmailItem := ⟨"user@example.org", "help@example.org", "Hallo", "Hallo!", none⟩
    let messages : OrderedMap String EmailItem := ⟨[("en", english), ("de-AT", german)], by simp⟩
    let titles : OrderedMap String String := ⟨[("en", "Hello"), ("de-AT", "Hallo")], by simp⟩
    let steps : List Snapshot.Step :=
      [.value Schema.emailChangePassword (.localizedEmail messages),
        .bundle .display "Title" titles.entries]
    let store := (steps.foldl Snapshot.apply .empty).store
    let t : Tenant := ⟨"example.org", .default, fun _ _ => 0⟩
    (t.serve store (t.memoryAfter store .empty [.digest])
        (.read none Schema.emailChangePassword (.email ⟨"de_CH"⟩))).value.1 = .ok (some german)
      ∧ select messages ⟨"de_CH"⟩ = some german
      ∧ ∃ texts : Option (OrderedMap Locale String),
        (t.serve store (t.memoryAfter store .empty [.digest])
            (.localizedBundle .display "Title")).value.1 = .ok texts
          ∧ texts.bind (best ⟨"de_CH"⟩) = some "Hallo" := by
  intro english german messages titles steps store t
  obtain ⟨emails, bundles⟩ := t.localized_looksUp store [.digest] ⟨"de_CH"⟩
  have stored : store.answer (.value Schema.emailChangePassword none) = .localizedEmail messages :=
    rfl
  obtain ⟨found, read, looksUp⟩ := emails none none Schema.emailChangePassword messages rfl stored
  have overridden : store.answer (.bundle .display "Title") = some titles := rfl
  obtain ⟨texts, handed, looksUpToo⟩ := bundles .display "Title" titles overridden
  have message : found = some german := by
    rw [looksUp.last]
    decide +kernel
  subst message
  refine ⟨read, ?_, texts, handed, ?_⟩
  · rw [looksUp.first]
    decide +kernel
  · rw [looksUpToo.last]
    decide +kernel

/-- Two tags of one locale: the message that is read is the last one, and so is the text that is
found among those handed out, while the first one is selected. -/
theorem localized_parts_from_select :
    let early : EmailItem := ⟨"user@example.org", "help@example.org", "Hello", "Hello!", none⟩
    let late : EmailItem := ⟨"user@example.org", "help@example.org", "Hi", "Hi!", none⟩
    let messages : OrderedMap String EmailItem := ⟨[("en-US", early), ("en_us", late)], by simp⟩
    let titles : OrderedMap String String := ⟨[("en-US", "Hello"), ("en_us", "Hi")], by simp⟩
    let steps : List Snapshot.Step :=
      [.value Schema.emailChangePassword (.localizedEmail messages),
        .bundle .display "Title" titles.entries]
    let store := (steps.foldl Snapshot.apply .empty).store
    let t : Tenant := ⟨"example.org", .default, fun _ _ => 0⟩
    let texts : OrderedMap Locale String := ⟨[(⟨"en_US"⟩, "Hi")], by simp⟩
    store.answer (.value Schema.emailChangePassword none) = .localizedEmail messages
      ∧ (t.serve store .empty (.read none Schema.emailChangePassword (.email ⟨"en_US"⟩))).value.1
        = .ok (some late)
      ∧ select messages ⟨"en_US"⟩ = some early ∧ early ≠ late
      ∧ store.answer (.bundle .display "Title") = some titles
      ∧ (t.serve store .empty (.localizedBundle .display "Title")).value.1 = .ok (some texts)
      ∧ best ⟨"en_US"⟩ texts = some "Hi" ∧ select titles ⟨"en_US"⟩ = some "Hello" := by
  intro early late messages titles steps store t texts
  have read : (t.serve store .empty
      (.read none Schema.emailChangePassword (.email ⟨"en_US"⟩))).value.1 = .ok (some late) := by
    decide +kernel
  have handed : (t.serve store .empty (.localizedBundle .display "Title")).value.1
      = .ok (some texts) := by
    decide +kernel
  exact ⟨rfl, read, by decide +kernel, by decide, rfl, handed, by decide +kernel,
    by decide +kernel⟩

end Tenant

end TenantSettings

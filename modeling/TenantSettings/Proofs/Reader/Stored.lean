import TenantSettings.Proofs.Reader.Contract

/-!
# Reads of what is stored

What the reader of a profile comes to where it is known what is stored. A number is read as itself,
and a count too unless it is negative; of localized texts those are read that suit the locale best.
In a snapshot every setting that is declared with such a shape holds a value of it.

* `Reader.result_read_of_stored`: a read decodes what is stored for the profile.
* `Reader.result_number`, `Reader.result_localizedTexts`: what comes of numbers and of texts.
* `Snapshot.exists_number`, `Snapshot.exists_localizedTexts`: what is stored in a snapshot.
-/

namespace TenantSettings

namespace Reader

variable {r : Reader} {id : String} {x : Setting} {store : Store}
variable (named : r.profile = some id)

include named

/-- What is read in a profile goes by its id. -/
lemma profileId_of_named : r.profileId = id := by
  rw [profileId, named]
  rfl

variable (profiled : x.isProfiled = true)

include profiled

/-- The reader of a profile looks a profiled setting up under it. -/
lemma scope_of_named : r.scope x = .ok (some id) := by
  rw [scope, profiled, named]
  rfl

/-- A read decodes what is stored for the profile. -/
lemma result_read_of_stored {v : StoredValue} (stored : store.answer (.value x (some id)) = v)
    (reading : Reading) : (r.read x reading).result store = (reading.decode x v).map Prod.fst := by
  rw [r.result_read (scope_of_named named profiled), stored]

/-- A number is read as it is stored. -/
lemma result_number {n : Int64} (stored : store.answer (.value x (some id)) = .number n) :
    (r.number x).result store = .ok n.toInt := by
  rw [number, Read.result_bind, result_read_of_stored named profiled stored]
  rfl

/-- Of localized texts those are read that suit the locale best. -/
lemma result_localizedTexts {m : OrderedMap String (List String)}
    (stored : store.answer (.value x (some id)) = .localizedTexts m) (locale : Locale) :
    (r.localizedTexts x locale).result store = .ok ((Locale.select m locale).getD []) := by
  rw [localizedTexts, result_read_of_stored named profiled stored]
  rfl

end Reader

namespace Snapshot

variable {s : Snapshot} (fits : s.Admitted) {x : Setting}

include fits

/-- A setting that is declared as a number holds one. -/
lemma exists_number (declared : x.shape = .number) (profile : Option String) :
    ∃ n, s.value x profile = .number n := by
  have admitted := fits.value x profile
  revert admitted
  cases s.value x profile with
  | number n => exact fun _ => ⟨n, rfl⟩
  | _ => simp [Setting.admits, declared, StoredValue.shape]

/-- A setting that is declared as localized lists of texts holds a map of such lists. -/
lemma exists_localizedTexts (declared : x.shape = .localizedTexts) (profile : Option String) :
    ∃ m, s.value x profile = .localizedTexts m := by
  have admitted := fits.value x profile
  revert admitted
  cases s.value x profile with
  | localizedTexts m => exact fun _ => ⟨m, rfl⟩
  | _ => simp [Setting.admits, declared, StoredValue.shape]

end Snapshot

end TenantSettings

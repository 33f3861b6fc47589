import TenantSettings.Proofs.Reader.Stored
import TenantSettings.Proofs.Tenant.ProfileErrors

/-!
# Challenges that can be met

A challenge asks for some of its random questions, as many as a number says that is stored apart
from them. The questions are chosen by locale, so that the same number may be too large in one
locale and not in another; a challenge is handed out exactly if it is not, and then the answers that
it asks for are never more than its questions.

* `ChallengeProfile.meets_stored`: what a challenge comes to, over any store.
* `ChallengeProfile.minimumResponses_le`: how many answers are asked for.
* `Tenant.challenge_answerable`: the challenges that a tenant hands out;
  `Tenant.challenge_answerable_by_locale`, one that there is in one locale only.
-/

namespace TenantSettings

namespace ChallengeProfile

open Read

/-! ### What is stored for a challenge -/

/-- The questions for a locale: those of the stored ones that suit it best. -/
def questions (stored : OrderedMap String (List String)) (locale : Locale) : List String :=
  (Locale.select stored locale).getD []

/-- A store holds for a profile how many random questions have to be answered, and the questions of
either kind. -/
structure Stored (store : Store) (profile : String) (wanted : Int64)
    (random required : OrderedMap String (List String)) : Prop where
  wanted : store.answer (.value Schema.challengeMinRandomRequired (some profile)) = .number wanted
  random : store.answer (.value Schema.challengeRandomChallenges (some profile))
    = .localizedTexts random
  required : store.answer (.value Schema.challengeRequiredChallenges (some profile))
    = .localizedTexts required

/-- The random questions for a locale are no fewer than have to be answered. -/
def Enough (wanted : Int64) (random : OrderedMap String (List String)) (locale : Locale) : Prop :=
  0 ≤ wanted.toInt ∧ wanted.toInt ≤ (questions random locale).length

/-- A challenge is made of what is stored for its profile, by its locale. -/
structure Poses (p : ChallengeProfile) (profile : String) (locale : Locale) (wanted : Int64)
    (random required : OrderedMap String (List String)) : Prop where
  ofProfile : p.id = profile
  inLocale : p.locale = locale
  wanted : (p.minRandomRequired : Int) = wanted.toInt
  random : p.randomChallenges = questions random locale
  required : p.requiredChallenges = questions required locale

variable {profile : String} {locale : Locale} {wanted : Int64}
variable {random required : OrderedMap String (List String)}

/-- A snapshot holds all of it for every profile. -/
lemma exists_stored {s : Snapshot} (fits : s.Admitted) (profile : String) :
    ∃ wanted random required, Stored s.store profile wanted random required := by
  obtain ⟨wanted, number⟩ :=
    Snapshot.exists_number fits (x := Schema.challengeMinRandomRequired) rfl (some profile)
  obtain ⟨random, choices⟩ :=
    Snapshot.exists_localizedTexts fits (x := Schema.challengeRandomChallenges) rfl (some profile)
  obtain ⟨required, demands⟩ :=
    Snapshot.exists_localizedTexts fits (x := Schema.challengeRequiredChallenges) rfl
      (some profile)
  exact ⟨wanted, random, required, number, choices, demands⟩

/-! ### What comes of it -/

/-- A challenge is made of what is stored if there are enough random questions, and is refused for
their number if there are not. -/
lemma meets_stored {store : Store} {r : Reader} (named : r.profile = some profile)
    (stored : Stored store profile wanted random required) (locale : Locale) :
    Meets store
      (fun p => Enough wanted random locale ∧ p.Poses profile locale wanted random required)
      (fun e => ¬ Enough wanted random locale
        ∧ e = .ofProfile profile (.tooFewRandom wanted.toInt (questions random locale).length))
      (ChallengeProfile.read r locale) := by
  have carried : r.profileId = profile := Reader.profileId_of_named named
  have offered : (r.localizedTexts Schema.challengeRandomChallenges locale).result store
      = .ok (questions random locale) :=
    Reader.result_localizedTexts named rfl stored.random locale
  have number := Reader.result_number named rfl stored.wanted
  have demanded := Reader.result_localizedTexts named rfl stored.required locale
  -- the reads in their order; between the second and the third stands the only check
  refine .bind_of_ok offered <| .bind_of_ok number <| .ite (fun outside => ?_) fun inside => ?_
  · refine r.meets_fault _ ⟨fun enough => ?_, by rw [carried]⟩
    have low := enough.1
    have high := enough.2
    omega
  · have enough : Enough wanted random locale := ⟨by omega, by omega⟩
    exact .bind_of_ok demanded <| .pure
      ⟨enough, carried, rfl, Int.toNat_of_nonneg enough.1, rfl, rfl⟩

/-- Where there are enough random questions, no more answers are asked for than there are
questions. -/
lemma minimumResponses_le {p : ChallengeProfile} (enough : Enough wanted random locale)
    (poses : p.Poses profile locale wanted random required) :
    p.minimumResponses ≤ p.requiredChallenges.length + p.randomChallenges.length := by
  have bound : (p.minRandomRequired : Int) ≤ p.randomChallenges.length := by
    rw [poses.wanted, poses.random]
    exact enough.2
  rw [minimumResponses]
  omega

end ChallengeProfile

namespace Tenant

open ChallengeProfile

/-- What a look-up answers for an id that stands for a profile is the challenge of that profile. -/
lemma answer_challengeProfile {t : Tenant} {store : Store} {id profile : String}
    (resolved : resolveProfile .challengePolicy id (store.answer (.profileIds .challengePolicy))
      = .ok profile) (locale : Locale) :
    t.answer store (.challengeProfile id locale)
      = (ChallengeProfile.read (t.reader (some profile)) locale).result store := by
  rw [answer, resolved]
  rfl

/-- Over every snapshot that is built, for every id that stands for a profile, in every locale and
whatever was asked before: the challenge is handed out exactly if the stored number of random
questions is not negative and not greater than the number of random questions for the locale. It
then asks for that number, its questions are those of the stored ones that suit the locale best, and
no more answers are asked for than there are questions. Otherwise the profile cannot be built, and
the error tells both numbers. Asked again, whatever was asked in between, the answer is the same. -/
theorem challenge_answerable {steps : List Snapshot.Step} {s : Snapshot}
    (built : Snapshot.build steps = .ok s) (t : Tenant) {id profile : String}
    (resolved : resolveProfile .challengePolicy id (s.profileIds .challengePolicy) = .ok profile)
    (locale : Locale) (before between : List Request) :
    ∃ wanted random required, Stored s.store profile wanted random required ∧
      let served := (t.serve s.store (t.memoryAfter s.store .empty before)
        (.challengeProfile id locale)).value.1
      ((∃ p, served = .ok p)
          ↔ 0 ≤ wanted.toInt ∧ wanted.toInt ≤ (questions random locale).length)
        ∧ (∀ p, served = .ok p → p.Poses profile locale wanted random required
          ∧ p.minimumResponses ≤ p.requiredChallenges.length + p.randomChallenges.length)
        ∧ (∀ e, served = .error e → e.code? = some .profileConstruction
          ∧ e = .ofProfile profile (.tooFewRandom wanted.toInt (questions random locale).length))
        ∧ (t.serve s.store (t.memoryAfter s.store .empty
            (before ++ .challengeProfile id locale :: between))
              (.challengeProfile id locale)).value.1 = served := by
  obtain ⟨wanted, random, required, stored⟩ :=
    exists_stored (Snapshot.Admitted.of_build built) profile
  refine ⟨wanted, random, required, stored, ?_⟩
  intro served
  have answered : served
      = (ChallengeProfile.read (t.reader (some profile)) locale).result s.store :=
    (t.serve_memoryAfter_eq_answer s.store before _).trans (answer_challengeProfile resolved locale)
  -- the contract of the read has both sides: what is handed out, and the one way to fail
  have contract := meets_stored (r := t.reader (some profile)) rfl stored locale
  have handedOut : ∀ p, served = .ok p → Enough wanted random locale
      ∧ p.Poses profile locale wanted random required :=
    fun p done => contract.yields (answered.symm.trans done)
  have refused : ∀ e, served = .error e → ¬ Enough wanted random locale
      ∧ e = .ofProfile profile (.tooFewRandom wanted.toInt (questions random locale).length) :=
    fun e failed => contract.fails (answered.symm.trans failed)
  refine ⟨⟨?_, fun enough => ?_⟩, fun p done => ?_, fun e failed => ?_, ?_⟩
  · rintro ⟨p, done⟩
    exact (handedOut p done).1
  · cases comes : served with
    | ok p => exact ⟨p, rfl⟩
    | error e => exact absurd enough (refused e comes).1
  · obtain ⟨enough, poses⟩ := handedOut p done
    exact ⟨poses, minimumResponses_le enough poses⟩
  · obtain ⟨-, rfl⟩ := refused e failed
    exact ⟨rfl, rfl⟩
  -- no run of requests changes what is served, so neither does the one in between
  · exact (t.serve_memoryAfter_eq_answer s.store _ _).trans
      (t.serve_memoryAfter_eq_answer s.store before _).symm

/-- Two random questions to answer, of which there are two by default and one in German. -/
theorem challenge_answerable_by_locale :
    let steps : List Snapshot.Step :=
      [.profileValue Schema.challengeMinRandomRequired "staff" (.number 2),
        .profileValue Schema.challengeRandomChallenges "staff"
          (.localizedTexts (.ofList [("", ["First pet?", "First car?"]), ("de", ["Haustier?"])]))]
    let s := steps.foldl Snapshot.apply .empty
    let t : Tenant := ⟨"example.org", .default, fun _ _ => 0⟩
    Snapshot.build steps = .ok s
      ∧ resolveProfile .challengePolicy "staff" (s.profileIds .challengePolicy) = .ok "staff"
      ∧ (∃ p, (t.serve s.store (t.memoryAfter s.store .empty [.digest])
          (.challengeProfile "staff" ⟨"fr"⟩)).value.1 = .ok p)
      ∧ ∃ e, (t.serve s.store (t.memoryAfter s.store .empty [.digest])
          (.challengeProfile "staff" ⟨"de_AT"⟩)).value.1 = .error e
        ∧ e.code? = some .profileConstruction := by
  intro steps s t
  have built : Snapshot.build steps = .ok s := rfl
  have resolved : resolveProfile .challengePolicy "staff" (s.profileIds .challengePolicy)
      = .ok "staff" := rfl
  obtain ⟨wanted, random, required, stored, french, -⟩ :=
    challenge_answerable built t resolved ⟨"fr"⟩ [.digest] []
  obtain ⟨wanted', random', required', stored', german, -, reported, -⟩ :=
    challenge_answerable built t resolved ⟨"de_AT"⟩ [.digest] []
  -- the stored number and texts are those of the steps, for both locales
  obtain rfl : 2 = wanted := StoredValue.number.inj stored.wanted
  obtain rfl : 2 = wanted' := StoredValue.number.inj stored'.wanted
  obtain rfl := StoredValue.localizedTexts.inj stored.random
  obtain rfl := StoredValue.localizedTexts.inj stored'.random
  refine ⟨built, resolved, french.mpr (by decide), ?_⟩
  cases comes : (t.serve s.store (t.memoryAfter s.store .empty [.digest])
      (.challengeProfile "staff" ⟨"de_AT"⟩)).value.1 with
  | ok p => exact absurd (german.mp ⟨p, comes⟩) (by decide)
  | error e => exact ⟨e, rfl, (reported e comes).1⟩

end Tenant

end TenantSettings

import TenantSettings.Reader.Basic

/-!
# Challenge profiles

The questions that a user answers to prove who they are.

* `ChallengeProfile.minimumResponses`: how many answers a user has to give.
-/

namespace TenantSettings

/-- The questions of one profile in one locale. -/
structure ChallengeProfile where
  id : String
  locale : Locale
  requiredChallenges : List String
  randomChallenges : List String
  minRandomRequired : Nat
deriving DecidableEq, Repr

namespace ChallengeProfile

/-- The challenge profile of a reader, for one locale. It cannot ask for more random questions than
there are. -/
def read (r : Reader) (locale : Locale) : Read ChallengeProfile := do
  let randomChallenges ← r.localizedTexts Schema.challengeRandomChallenges locale
  let wanted ← r.number Schema.challengeMinRandomRequired
  if wanted < 0 ∨ wanted > randomChallenges.length then
    r.fault (.tooFewRandom wanted randomChallenges.length)
  else
    return {
      id := r.profileId
      locale
      requiredChallenges := ← r.localizedTexts Schema.challengeRequiredChallenges locale
      randomChallenges
      minRandomRequired := wanted.toNat }

/-- How many answers a user has to give. -/
def minimumResponses (p : ChallengeProfile) : Nat :=
  p.requiredChallenges.length + p.minRandomRequired

end ChallengeProfile

end TenantSettings

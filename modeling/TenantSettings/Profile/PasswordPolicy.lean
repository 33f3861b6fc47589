import TenantSettings.Reader.Basic
import TenantSettings.Unicode.Letters

/-!
# Password policies

The rules for passwords of one profile, with the message for users in one locale.

* `PasswordPolicy.check`: every rule that a password breaks.
-/

namespace TenantSettings

/-- A rule that a password breaks. -/
inductive Violation where
  | tooShort (minimum : Nat)
  | tooLong (maximum : Nat)
  | notEnoughUppercase (minimum : Nat)
  | notEnoughLowercase (minimum : Nat)
  | notEnoughNumeric (minimum : Nat)
  | notEnoughSpecial (minimum : Nat)
  | disallowed
deriving DecidableEq, Repr

namespace Violation

/-- The word for the kind of a violation. -/
def kind : Violation → String
  | .tooShort _ => "TooShort"
  | .tooLong _ => "TooLong"
  | .notEnoughUppercase _ => "NotEnoughUppercase"
  | .notEnoughLowercase _ => "NotEnoughLowercase"
  | .notEnoughNumeric _ => "NotEnoughNumeric"
  | .notEnoughSpecial _ => "NotEnoughSpecial"
  | .disallowed => "Disallowed"

/-- The bound that is missed, where the rule has one. -/
def bound? : Violation → Option Nat
  | .tooShort n | .tooLong n | .notEnoughUppercase n | .notEnoughLowercase n
  | .notEnoughNumeric n | .notEnoughSpecial n => some n
  | .disallowed => none

/-- The wording of a violation. -/
def message : Violation → String
  | .tooShort n => "password must be at least " ++ toString n ++ " characters"
  | .tooLong n => "password must be at most " ++ toString n ++ " characters"
  | .notEnoughUppercase n => "password needs " ++ toString n ++ " uppercase characters"
  | .notEnoughLowercase n => "password needs " ++ toString n ++ " lowercase characters"
  | .notEnoughNumeric n => "password needs " ++ toString n ++ " digits"
  | .notEnoughSpecial n => "password needs " ++ toString n ++ " special characters"
  | .disallowed => "password is not allowed"

end Violation

/-- The rules for passwords. A maximum of zero is none. -/
structure PasswordPolicy where
  id : String
  locale : Locale
  appliesTo : List Permission
  minimumLength : Nat
  maximumLength : Nat
  minimumUppercase : Nat
  minimumLowercase : Nat
  minimumNumeric : Nat
  minimumSpecial : Nat
  disallowedValues : List String
  changeMessage : String
deriving DecidableEq, Repr

namespace PasswordPolicy

/-- The password policy of a reader, for one locale. -/
def read (r : Reader) (locale : Locale) : Read PasswordPolicy := do
  let minimumLength ← r.count Schema.passwordPolicyMinimumLength
  let maximumLength ← r.count Schema.passwordPolicyMaximumLength
  if maximumLength > 0 ∧ minimumLength > maximumLength then
    r.fault (.lengthOrder minimumLength maximumLength)
  else
    return {
      id := r.profileId
      locale
      appliesTo := ← r.permissions Schema.passwordPolicyQueryMatch
      minimumLength, maximumLength
      minimumUppercase := ← r.count Schema.passwordPolicyMinimumUppercase
      minimumLowercase := ← r.count Schema.passwordPolicyMinimumLowercase
      minimumNumeric := ← r.count Schema.passwordPolicyMinimumNumeric
      minimumSpecial := ← r.count Schema.passwordPolicyMinimumSpecial
      disallowedValues := ← r.texts Schema.passwordPolicyDisallowedValues
      changeMessage := ← r.localizedText Schema.passwordPolicyChangeMessage locale }

/-- A violation under a condition. -/
def violationIf (broken : Bool) (v : Violation) : List Violation := if broken then [v] else []

/-- Whether a character is special: neither a letter nor a digit. -/
def isSpecial (c : Char) : Bool := !Unicode.isAlphanumeric c

/-- Every rule that a password breaks, in the order of the rules. -/
def check (p : PasswordPolicy) (password : String) : List Violation :=
  let cs := password.toList
  violationIf (cs.length < p.minimumLength) (.tooShort p.minimumLength)
    ++ violationIf (p.maximumLength > 0 && cs.length > p.maximumLength) (.tooLong p.maximumLength)
    ++ violationIf (cs.countP Unicode.isUppercase < p.minimumUppercase)
      (.notEnoughUppercase p.minimumUppercase)
    ++ violationIf (cs.countP Unicode.isLowercase < p.minimumLowercase)
      (.notEnoughLowercase p.minimumLowercase)
    ++ violationIf (cs.countP Unicode.isNumeric < p.minimumNumeric)
      (.notEnoughNumeric p.minimumNumeric)
    ++ violationIf (cs.countP isSpecial < p.minimumSpecial) (.notEnoughSpecial p.minimumSpecial)
    ++ violationIf (p.disallowedValues.any (Unicode.eqIgnoreAsciiCase · password)) .disallowed

end PasswordPolicy

end TenantSettings

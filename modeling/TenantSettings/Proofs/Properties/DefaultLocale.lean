import TenantSettings.Proofs.Locale.Tag
import TenantSettings.Proofs.Properties.Override

/-!
# The default locale of properties in use

Properties are only in use when their default locale is not blank. That is asked of the text as it
is written, less the white space at its ends; the locale is read from what stands between the
separators of that text, so that a text of nothing but separators is let through and names the root.

* `Locale.parse_eq_root_iff_separators`: the texts that name the root.
* `Properties.InUse`: properties that were found valid, wherever they come from;
  `Properties.inUse_iff`: which these are.
* `Properties.inUse_and_root_iff`: those of them that name the root; `Properties.locale_of_separator`,
  one of these.
-/

namespace TenantSettings

open Unicode

/-- The root is named by the texts that hold only separators between white space. -/
lemma Locale.parse_eq_root_iff_separators {tag : String} :
    parse tag = .root ↔ ∀ c ∈ trimChars tag.toList, isSeparator c = true := by
  rw [parse_eq_root_iff, written, Text.segments_eq_nil_iff]

namespace Properties

variable {p : Properties}

/-- Properties that a configuration may be opened with: valid ones, those that are read from a TOML
text, and those that are loaded from an optional file and the environment. -/
inductive InUse : Properties → Prop where
  | valid {p : Properties} (h : p.validate = .ok ()) : InUse p
  | read {p : Properties} {text : String} (h : ofToml text = .ok p) : InUse p
  | loaded {p : Properties} {file : Option String} {vars : List (String × String)}
      (h : load file vars = .ok p) : InUse p

/-- Whatever is read or loaded was found valid. -/
lemma inUse_iff_validate : p.InUse ↔ p.validate = .ok () := by
  refine ⟨fun use => ?_, .valid⟩
  cases use with
  | valid h => exact h
  | read h =>
      unfold ofToml at h
      exact (checked_eq_ok_iff.mp h).1
  | loaded h => exact (load_eq_ok_iff.mp h).1

/-- Properties are in use if the least length of a key is positive and something is left of the
default locale without the white space at its ends. -/
lemma inUse_iff : p.InUse ↔ p.minKeyLength ≠ 0 ∧ trimChars p.defaultLocale.toList ≠ [] := by
  have blank : isBlank p.defaultLocale = false ↔ trimChars p.defaultLocale.toList ≠ [] := by
    rw [isBlank, ne_eq, trimChars_eq_nil_iff, ← List.all_eq_true, Bool.not_eq_true]
  rw [inUse_iff_validate, validate_eq_ok_iff, blank]

/-- The properties in use whose default locale is the root are those whose default locale is written
with separators only, one or more of them between white space. -/
theorem inUse_and_root_iff :
    p.InUse ∧ p.locale = .root
      ↔ p.minKeyLength ≠ 0 ∧ trimChars p.defaultLocale.toList ≠ []
        ∧ (trimChars p.defaultLocale.toList).all Locale.isSeparator = true := by
  rw [inUse_iff, locale, Locale.parse_eq_root_iff_separators, List.all_eq_true, and_assoc]

/-- A separator alone is valid, read and loaded as a default locale, and it names the root. -/
theorem locale_of_separator :
    let p : Properties := { default with defaultLocale := "_" }
    p.validate = .ok () ∧ ofToml "default_locale = \"_\"" = .ok p
      ∧ load none [("DOMAIN_CONFIG__DEFAULT_LOCALE", "_")] = .ok p ∧ p.locale = .root := by
  decide +kernel

end Properties

end TenantSettings

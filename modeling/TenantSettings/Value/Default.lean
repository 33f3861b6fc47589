import TenantSettings.Number.Integer
import TenantSettings.Setting.Basic
import TenantSettings.Text.Split
import TenantSettings.Unicode.Blank
import TenantSettings.Value.Basic

/-!
# Default values

The value of a setting that nothing is stored for, read from its default literal.

* `shape_defaultValue`: a default has the shape its setting declares.
-/

namespace TenantSettings

/-- The items of a literal: its parts between commas, trimmed, the empty ones left out. -/
def literalItems (literal : String) : List String :=
  (((Text.split (· == ',') literal.toList).map Unicode.trimChars).filter (!·.isEmpty)).map
    String.ofList

/-- The value of a setting that nothing is stored for: a scalar is read from the literal, a list of
texts or choices is split at commas, any other shape is empty. -/
def Setting.defaultValue (s : Setting) : StoredValue :=
  match s.shape with
  | .text => .text s.default
  | .choice => .choice s.default
  | .flag => .flag (s.default == "true")
  | .number => .number ((Number.int64? s.default).getD 0)
  | .texts => .texts (literalItems s.default)
  | .choices => .choices (literalItems s.default)
  | .localizedText =>
    if s.default.isEmpty then .localizedText .empty
    else .localizedText (.ofList [("", s.default)])
  | other => .empty other

/-- A default has the shape its setting declares. -/
theorem Setting.shape_defaultValue (s : Setting) : s.defaultValue.shape = s.shape := by
  by_cases e : s.default.isEmpty = true <;>
    cases h : s.shape <;> simp [defaultValue, h, e, StoredValue.shape, StoredValue.empty]

end TenantSettings

import TenantSettings.Setting.Kind

/-!
# Settings

A setting is identified by its key together with its shape, its category and its default literal.
-/

namespace TenantSettings

/-- An identifier of a stored value. -/
structure Setting where
  key : String
  shape : Shape
  category : Category
  default : String
deriving DecidableEq, Repr

/-- Whether a setting is stored once per named profile. -/
def Setting.isProfiled (s : Setting) : Bool := s.category.hasProfiles

end TenantSettings

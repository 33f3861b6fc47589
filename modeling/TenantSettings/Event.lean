import TenantSettings.Literal

/-!
# Logged events

What is told about a configuration while it is read.
-/

namespace TenantSettings

/-- The severity of a logged event. -/
inductive Severity where
  | error | warn | info | debug
deriving DecidableEq, Repr

instance : Literal Severity where
  all := [.error, .warn, .info, .debug]
  text
    | .error => "ERROR"
    | .warn => "WARN"
    | .info => "INFO"
    | .debug => "DEBUG"

/-- A logged event: a message and named fields. -/
structure Event where
  severity : Severity
  message : String
  fields : List (String × String)
deriving DecidableEq, Repr

end TenantSettings

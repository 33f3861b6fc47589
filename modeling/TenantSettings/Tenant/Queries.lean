import TenantSettings.Tenant.Basic

/-!
# Questions about a tenant

What is read from single settings and put into the form that callers need.  Nothing of it is kept.
-/

namespace TenantSettings.Tenant

/-- The storage methods that the words of a text between dashes stand for, in order, and the words
that stand for none. -/
def storageWords (text : String) : List (Except String StorageMethod) :=
  (Text.segments (· == '-') text.toList).map fun word =>
    match (Literal.ofText? (String.ofList word) : Option StorageMethod) with
    | some method => .ok method
    | none => .error (String.ofList word)

/-- The places where data is stored, in order, from the words of a text setting; unknown words are
passed over with an event. -/
def storageLocations (t : Tenant) (s : Setting) : Read (List StorageMethod) := do
  let words := storageWords (← t.plain.text s)
  for word in words do
    if let .error unknown := word then
      Read.tell ⟨.error, "unknown STORAGE_METHOD found: " ++ unknown,
        [("domain", t.domain), ("setting", s.key)]⟩
  return words.filterMap (·.toOption)

/-- Where tokens are kept, where the stored word is known. -/
def tokenStorage (t : Tenant) : Read (Option TokenStorage) := do
  let word ← t.plain.text Schema.tokenStorageMethod
  match (Literal.ofText? word : Option TokenStorage) with
  | some method => return some method
  | none => do
    Read.tell ⟨.warn, "unknown storage method specified: " ++ word,
      [("domain", t.domain), ("code", Literal.text ErrorCode.invalidConfig)]⟩
    return none

/-- Whether everything that a database connection needs is there; the first part that is missing
settles it. -/
def hasDatabase (t : Tenant) : Read Bool := do
  if (← t.plain.text Schema.databaseClass).isEmpty then return false
  else if (← t.plain.text Schema.databaseAddress).isEmpty then return false
  else if (← t.plain.text Schema.databaseUsername).isEmpty then return false
  else return (← t.plain.password Schema.databasePassword).isSome

/-- The settings outside of all profiles that differ from their defaults, each once. -/
def nonDefaultSettings (_ : Tenant) : Read (List Setting) := do
  let items : List ItemKey ← Read.ask .modified
  return ((items.filter (·.profile.isNone)).filterMap ItemKey.setting?).eraseDups

/-- The locales that the application offers, each once; the root where none are configured. -/
def knownLocales (t : Tenant) : Read (List Locale) := do
  let tags ← t.plain.texts Schema.knownLocales
  return if tags.isEmpty then [.root] else (tags.map Locale.parse).eraseDups

/-- The flags of the known locales. -/
def flags (t : Tenant) : Read (OrderedMap Locale String) := do
  return .ofList ((← t.knownLocales).map fun l => (l, l.flag))

/-- What the local event log keeps, where the stored word is known. -/
def logLevel (t : Tenant) : Read (Option LogLevel) :=
  t.plain.read Schema.eventsLocaldbLogLevel (.oneOf LogLevel)

/-- How the certificates of servers are matched; by their issuer where the stored word is
unknown. -/
def certificateMatching (t : Tenant) : Read CertificateMatching := do
  let stored ← t.plain.read Schema.certificateValidationMode (.oneOf CertificateMatching)
  return stored.getD .caOnly

end TenantSettings.Tenant

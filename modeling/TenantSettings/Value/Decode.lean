import TenantSettings.Certificate.Basic
import TenantSettings.Error
import TenantSettings.Event
import TenantSettings.Locale
import TenantSettings.Setting.Basic
import TenantSettings.Text.Quoted
import TenantSettings.Value.Basic

/-!
# Decoding stored values

What a stored value means for the setting it is read for.  Each decoder takes the values of one
shape and refuses all others; only texts and choices stand in for each other.  A word that no longer
means anything is passed over with a warning, since the words of a choice change between versions.

* `Setting.checkShape`: whether a value may be stored for a setting.
-/

namespace TenantSettings

/-- A private key with its certificates. -/
structure PrivateKey where
  label : String
  der : List UInt8
  certificates : List Certificate
deriving DecidableEq, Repr

/-- A description of a private key that does not show it. -/
def PrivateKey.describe (k : PrivateKey) : String :=
  "PrivateKeyMaterial \x7b label: " ++ Text.quoted k.label ++ ", der: \"<redacted>\" \x7d"

namespace Setting

/-- The error of a value that does not have the shape its setting asks for. -/
def mismatch (s : Setting) (v : StoredValue) : ConfigError := .wrongShape s.key s.shape v.shape

/-- Whether a value may be stored for a setting: it has the declared shape, or it is a text where a
choice is declared. -/
def admits (s : Setting) (v : StoredValue) : Bool :=
  v.shape == s.shape || (s.shape == .choice && v.shape == .text)

/-- The error of a value that may not be stored for a setting. -/
def checkShape (s : Setting) (v : StoredValue) : Except ConfigError Unit :=
  if s.admits v then .ok () else .error (s.mismatch v)

/-- The text of a text or of a choice. -/
def decodeText (s : Setting) : StoredValue → Except ConfigError String
  | .text t | .choice t => .ok t
  | other => .error (s.mismatch other)

/-- The truth value of a flag. -/
def decodeFlag (s : Setting) : StoredValue → Except ConfigError Bool
  | .flag b => .ok b
  | other => .error (s.mismatch other)

/-- The number of a number. -/
def decodeNumber (s : Setting) : StoredValue → Except ConfigError Int64
  | .number n => .ok n
  | other => .error (s.mismatch other)

/-- The texts of a list of texts. -/
def decodeTexts (s : Setting) : StoredValue → Except ConfigError (List String)
  | .texts l => .ok l
  | other => .error (s.mismatch other)

/-- The text that suits a locale best, empty when none does. -/
def decodeLocalizedText (s : Setting) (locale : Locale) : StoredValue → Except ConfigError String
  | .localizedText m => .ok ((Locale.select m locale).getD "")
  | other => .error (s.mismatch other)

/-- The texts that suit a locale best, none when there are none. -/
def decodeLocalizedTexts (s : Setting) (locale : Locale) :
    StoredValue → Except ConfigError (List String)
  | .localizedTexts m => .ok ((Locale.select m locale).getD [])
  | other => .error (s.mismatch other)

/-- The warning about a word that means nothing. -/
def unknownWord (s : Setting) (message word : String) : Event :=
  ⟨.warn, message, [("setting", s.key), ("value", word)]⟩

/-- The value that the word of a choice stands for, with a warning when it stands for none. -/
def decodeChoice {α : Type} (ofWord? : String → Option α) (s : Setting) :
    StoredValue → Except ConfigError (Option α × List Event)
  | .text word | .choice word =>
    match ofWord? word with
    | some a => .ok (some a, [])
    | none => .ok (none, [s.unknownWord "unknown enum value for setting, ignoring" word])
  | other => .error (s.mismatch other)

/-- The values that some words stand for, each once and in order of first occurrence, with a
warning for every word that stands for none. -/
def decodeChoices {α : Type} [DecidableEq α] (ofWord? : String → Option α) (s : Setting) :
    StoredValue → Except ConfigError (List α × List Event)
  | .choices words =>
    .ok ((words.filterMap ofWord?).eraseDups,
      (words.filter fun w => (ofWord? w).isNone).map
        (s.unknownWord "unknown option value for setting, ignoring"))
  | other => .error (s.mismatch other)

/-- The fields of a form. -/
def decodeForm (s : Setting) : StoredValue → Except ConfigError (List FormField)
  | .form fields => .ok fields
  | other => .error (s.mismatch other)

/-- The permissions of a list of permissions. -/
def decodePermissions (s : Setting) : StoredValue → Except ConfigError (List Permission)
  | .permissions l => .ok l
  | other => .error (s.mismatch other)

/-- The actions of a list of actions. -/
def decodeActions (s : Setting) : StoredValue → Except ConfigError (List Action)
  | .actions l => .ok l
  | other => .error (s.mismatch other)

/-- The services of a list of services. -/
def decodeWebServices (s : Setting) : StoredValue → Except ConfigError (List WebService)
  | .webServices l => .ok l
  | other => .error (s.mismatch other)

/-- The secret of a password, where there is one. -/
def decodePassword (s : Setting) : StoredValue → Except ConfigError (Option Secret)
  | .password p => .ok p
  | other => .error (s.mismatch other)

/-- The secrets of a map of secrets, by name. -/
def decodeNamedSecrets (s : Setting) :
    StoredValue → Except ConfigError (OrderedMap String NamedSecret)
  | .namedSecrets m => .ok m
  | other => .error (s.mismatch other)

/-- The content of a stored file: base64 text, white space at its ends allowed. -/
def decodeFile (s : Setting) (f : StoredFile) : Except ConfigError (FileInfo × FileContent) :=
  match Base64.decode (Unicode.trim f.content) with
  | some bytes => .ok (f.info, ⟨bytes⟩)
  | none => .error (.ofCause (.fileContent s.key f.info.filename (Unicode.trim f.content)))

/-- The contents of stored files by what identifies them; the first bad file refuses all. -/
def decodeFiles (s : Setting) :
    StoredValue → Except ConfigError (OrderedMap FileInfo FileContent)
  | .files l => do return .ofList (← l.mapM s.decodeFile)
  | other => .error (s.mismatch other)

end Setting

/-- The certificate of DER bytes. -/
def certificateOfDer (der : List UInt8) : Except ConfigError Certificate :=
  match Certificate.ofDer? der with
  | some c => .ok c
  | none => .error (.ofCause (.certificate der))

/-- The certificates of a PEM document: its blocks with the label `CERTIFICATE`. -/
def certificatesOfPem (document : String) : Except ConfigError (List Certificate) := do
  let blocks ← (Pem.blocks document).mapError fun fault => .ofCause (.pem fault)
  (blocks.filter (·.label == "CERTIFICATE")).mapM fun block => certificateOfDer block.contents

/-- The certificates of several PEM documents, in order. -/
def certificatesOfPems (documents : List String) : Except ConfigError (List Certificate) := do
  return (← documents.mapM certificatesOfPem).flatten

namespace Setting

/-- The certificates of a list of PEM documents, in order. -/
def decodeCertificates (s : Setting) : StoredValue → Except ConfigError (List Certificate)
  | .certificates pems => certificatesOfPems pems
  | other => .error (s.mismatch other)

/-- Whether the label of a block says that it holds a private key. -/
def isKeyLabel (label : String) : Bool := "PRIVATE KEY".toList.isSuffixOf label.toList

/-- The key of a stored key and its certificates; nothing when nothing is stored. -/
def decodePrivateKey (s : Setting) : StoredValue → Except ConfigError (Option PrivateKey)
  | .privateKey none => .ok none
  | .privateKey (some stored) => do
    let block ← (Pem.firstBlock stored.keyPem).mapError fun fault =>
      .ofCause (.keyPem s.key fault)
    if !isKeyLabel block.label then .error (.ofCause (.keyLabel s.key block.label))
    let certificates ← certificatesOfPems stored.certificatesPem
    return some { label := block.label, der := block.contents, certificates }
  | other => .error (s.mismatch other)

/-- The messages by the locales that their tags name. -/
def decodeLocalizedEmail (s : Setting) :
    StoredValue → Except ConfigError (OrderedMap Locale EmailItem)
  | .localizedEmail m => .ok (.ofList (m.entries.map fun e => (Locale.parse e.1, e.2)))
  | other => .error (s.mismatch other)

end Setting

end TenantSettings

import TenantSettings.OrderedMap
import TenantSettings.Text.Split
import TenantSettings.Unicode.Blank
import TenantSettings.Unicode.Case

/-!
# Locales

A locale is named by a tag: language, country and variants, joined by underscores.  The empty tag
names the root locale, which every text falls back to.

* `Locale.parse`: the locale a written tag names.
* `Locale.resolve`: the available locale that suits a desired one best.
* `Locale.select`: the entry of a map keyed by written tags that suits a locale best.
-/

namespace TenantSettings

/-- A locale, given by its tag. -/
structure Locale where
  tag : String
deriving DecidableEq, Repr, Inhabited

namespace Locale

/-- The locale of default texts. -/
def root : Locale := ⟨""⟩

/-- Whether a locale is the root. -/
def isRoot (l : Locale) : Bool := l.tag.isEmpty

/-- Whether a character separates the parts of a written tag. -/
def isSeparator (c : Char) : Bool := c == '_' || c == '-'

/-- The characters of a normalized tag: language in small letters, country in capitals, variants as
they are. -/
def normalize : List (List Char) → List Char
  | [] => []
  | [language] => Unicode.toLowerChars language
  | language :: country :: variants =>
    Text.join ['_'] (Unicode.toLowerChars language :: Unicode.toUpperChars country :: variants)

/-- The locale that a written tag names. Either separator is accepted, and empty parts count for
nothing. -/
def parse (tag : String) : Locale :=
  ⟨String.ofList (normalize (Text.segments isSeparator (Unicode.trimChars tag.toList)))⟩

/-- The parts of a tag. -/
def parts (l : Locale) : List (List Char) := Text.split (· == '_') l.tag.toList

/-- The language, empty for the root. -/
def language (l : Locale) : String := String.ofList (l.parts.headD [])

/-- The country, where the tag has one. -/
def country (l : Locale) : Option String := l.parts[1]?.map String.ofList

/-- The available locale that suits `desired` best: itself, its bare language, any locale of its
language, the root; within each of these the first. -/
def resolve (desired : Locale) (available : List Locale) : Option Locale :=
  let sameLanguage : Option Locale :=
    if desired.language.isEmpty then none
    else (available.find? (·.tag == desired.language)).or
      (available.find? (·.language == desired.language))
  (available.find? (· == desired)).or (sameLanguage.or (available.find? (·.isRoot)))

/-- The entry that suits a locale best among entries under written tags. -/
def selectEntry {ν : Type} (desired : Locale) (entries : List (String × ν)) : Option ν := do
  let parsed := entries.map fun e => (parse e.1, e.2)
  let chosen ← resolve desired (parsed.map Prod.fst)
  parsed.lookup chosen

/-- The value that suits a locale best in a map keyed by written tags. -/
def select {ν : Type} (values : OrderedMap String ν) (desired : Locale) : Option ν :=
  selectEntry desired values.entries

/-- The code of a locale's flag: the country where there is one, else the language, in small
letters. -/
def flag (l : Locale) : String := Unicode.toLower (l.country.getD l.language)

end Locale

end TenantSettings

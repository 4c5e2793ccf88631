import Phrasebook.Locale.Table
import Phrasebook.Text.Blank
import Phrasebook.Text.Casing

namespace Phrasebook

/-!
# Locales

A locale is a known language, or one of its regional variants.  The set of locales is closed, and
a locale is known by its position in their canonical order.

* `Locale`: a position in the table of locales.
* `Locale.tag`: the canonical tag, `en` or `en-GB`.
* `Locale.ofTag?`: the locale that a tag names in any letter case, with either separator.
* `Locale.chain`: a locale and then the language it is a variant of.
-/

/-- What the table says of one locale. -/
structure LocaleEntry where
  language : String
  region : Option String
  name : String
  deriving DecidableEq

/-- The canonical tag of a table entry. -/
def LocaleEntry.tag (e : LocaleEntry) : String :=
  match e.region with
  | none => e.language
  | some r => e.language ++ "-" ++ r

/-- A language and then its regional variants. -/
def Language.entries (l : Language) : List LocaleEntry :=
  ⟨l.code, none, l.name⟩
    :: l.regions.map fun r => ⟨l.code, some r.1, l.name ++ " (" ++ r.2 ++ ")"⟩

/-- Every locale, in canonical order. -/
def localeTable : List LocaleEntry :=
  languages.flatMap Language.entries

/-- A known locale, by its position in the canonical order. -/
structure Locale where
  position : Fin localeTable.length
  deriving DecidableEq

namespace Locale

/-- What the table says of a locale. -/
def entry (l : Locale) : LocaleEntry :=
  localeTable.get l.position

/-- The code of the language. -/
def language (l : Locale) : String :=
  l.entry.language

/-- The code of the region of a variant. -/
def region (l : Locale) : Option String :=
  l.entry.region

/-- The name that is shown: `French` or `French (Canada)`. -/
def displayName (l : Locale) : String :=
  l.entry.name

/-- The canonical tag: `fr` or `fr-CA`. -/
def tag (l : Locale) : String :=
  l.entry.tag

/-- Every locale, in canonical order. -/
def all : List Locale :=
  (List.finRange localeTable.length).map Locale.mk

/-- Whether a locale is a regional variant. -/
def isVariant (l : Locale) : Bool :=
  l.region.isSome

/-- The signed distance between the positions of two locales. -/
def compare (a b : Locale) : Int :=
  (a.position.val : Int) - b.position.val

/-- Whether one locale does not come after another. -/
def before (a b : Locale) : Bool :=
  decide (a.position ≤ b.position)

/-- Whether a character separates the parts of a tag. -/
def isTagSeparator (c : Char) : Bool :=
  c == '-' || c == '_'

/-- The canonical spelling of a tag of one or two parts. -/
def canonicalTag? (tag : List Char) : Option String :=
  match (Text.trim tag).splitOnP isTagSeparator with
  | [language] => some (String.ofList (Text.lower language))
  | [language, region] =>
    some (String.ofList (Text.lower language ++ '-' :: Text.upper region))
  | _ => none

/-- The locale with exactly this canonical tag. -/
def ofCanonical? (tag : String) : Option Locale :=
  all.find? fun l => l.tag = tag

/-- The locale that a tag names. -/
def ofTag? (tag : String) : Option Locale :=
  (canonicalTag? tag.toList).bind ofCanonical?

/-- The tag that a language code and a region code make; an empty region is no region. -/
def joinTag (language : String) (region : Option String) : String :=
  match region with
  | none | some "" => language
  | some r => language ++ "-" ++ r

/-- The language that a variant belongs to. -/
def parent? (l : Locale) : Option Locale :=
  if l.isVariant then ofCanonical? l.language else none

/-- A locale and then each less specific one. -/
def chain (l : Locale) : List Locale :=
  l :: l.parent?.toList

/-- The language of a variant; a language itself. -/
def base (l : Locale) : Locale :=
  l.parent?.getD l

/-- Locales in canonical order, equal ones kept in place. -/
def sort (ls : List Locale) : List Locale :=
  ls.mergeSort before

instance : Inhabited Locale := ⟨⟨⟨0, by decide +kernel⟩⟩⟩

/-- The table lists every locale. -/
theorem mem_all (l : Locale) : l ∈ all := by
  simp [all]

end Locale

end Phrasebook

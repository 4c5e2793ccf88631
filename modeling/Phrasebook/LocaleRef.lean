import Phrasebook.Fault

namespace Phrasebook

/-!
# References to locales

A setting names a locale by its tag or holds it.

* `LocaleRef.locale`: the locale that is meant; tags are read strictly.
* `fallbackOption`: the fallback locale that an option states.
-/

/-- A locale, or a tag that should name one. -/
inductive LocaleRef
  | known (l : Locale)
  | tagged (tag : String)
  deriving DecidableEq

/-- The locale that a tag names. -/
def localeOfTag (tag : String) : Except Fault Locale :=
  match Locale.ofTag? tag with
  | some l => .ok l
  | none => .error (.unknownLocale tag)

/-- The locale that is meant. -/
def LocaleRef.locale : LocaleRef → Except Fault Locale
  | known l => .ok l
  | tagged tag => localeOfTag tag

/-- The locale of a setting that may be off. -/
def localeOrOff : Option LocaleRef → Except Fault (Option Locale)
  | none => .ok none
  | some r => r.locale.map some

/-- The fallback locale that an option states; an empty tag states none. -/
def fallbackOption : Option LocaleRef → Except Fault (Option Locale)
  | some (.tagged "") => .ok none
  | r => localeOrOff r

end Phrasebook

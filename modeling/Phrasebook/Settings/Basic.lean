import Phrasebook.LocaleRef
import Phrasebook.Log
import Phrasebook.Settings.Schema

namespace Phrasebook

/-!
# Settings

What a service is set up with, and the check that every statement of settings goes through.

* `Settings`: settings that have been checked.
* `SettingIssue.inWords`: what is wrong with one setting, as a line.
* `Settings.checkLocale` and its like: the check of a single setting.
* `Settings.check`: a value of any kind as settings, or everything that is wrong with it.
-/

/-- Settings that have been checked. -/
structure Settings where
  defaultLocale : Locale
  /-- the locale tried after a request's own; none switches that off -/
  fallback : Option Locale
  directory : String
  extensions : List String
  cacheSize : Nat
  level : Severity
  deriving DecidableEq

/-- An issue in words. -/
def SettingIssue.inWords (i : SettingIssue) : String :=
  i.path ++ ": " ++ i.message

namespace Settings

/-! ### Single settings -/

/-- What to say of an empty text. -/
def ifEmpty (message text : String) : Option String :=
  if text.isEmpty then some message else none

/-- What to say of a tag that names no locale. -/
def ifUnknown (tag : String) : Option String :=
  if (Locale.ofTag? tag).isSome then none else some ("'" ++ tag ++ "' is not a known locale")

/-- A locale, by its tag. -/
def checkLocale (path : String) (v : Value) : Checked Locale :=
  (schemaRules.text [ifEmpty "locale tag is required", ifUnknown] path v).map fun tag =>
    (Locale.ofTag? tag).getD default

/-- A tag that names a locale. -/
def checkTag (path tag : String) : Checked Locale :=
  checkLocale path (.text tag)

/-- A locale by its tag, or none. -/
def checkFallback (path : String) (v : Value) : Checked (Option Locale) :=
  schemaRules.nullable checkLocale path v

/-- A directory with a name. -/
def checkDirectory (path : String) (v : Value) : Checked String :=
  schemaRules.text [ifEmpty "translations directory is required"] path v

/-- Whether an extension consists of small letters and digits, one at least. -/
def isExtension (extension : String) : Bool :=
  let cs := extension.toList
  !cs.isEmpty && cs.all fun c => ('a' ≤ c && c ≤ 'z') || ('0' ≤ c && c ≤ '9')

/-- What to say of a text that is no extension. -/
def ifNoExtension (text : String) : Option String :=
  if isExtension text then none else some "extension must be alphanumeric"

/-- One extension. -/
def checkExtension (path : String) (v : Value) : Checked String :=
  schemaRules.text [ifNoExtension] path v

/-- A list of extensions, one at least. -/
def checkExtensions (path : String) (v : Value) : Checked (List String) :=
  schemaRules.list "at least one file extension is required" checkExtension path v

/-- The greatest size of a template cache that can be set. -/
def maxCacheSize : Nat := 1000000

/-- The size of a cache. -/
def checkCacheSize (path : String) (v : Value) : Checked Nat :=
  (schemaRules.integer 1 maxCacheSize path v).map fun x => (x.toInt?.getD 0).toNat

/-- The names of the severities. -/
def levelNames : List String :=
  Severity.all.map Severity.name

/-- A severity, by its name. -/
def checkLevel (path : String) (v : Value) : Checked Severity :=
  (schemaRules.choice levelNames path v).map fun name => (Severity.ofName? name).getD .info

/-! ### All settings -/

/-- The names of the settings. -/
structure Names where
  defaultLocale : String := "defaultLocale"
  fallback : String := "fallbackLocale"
  directory : String := "translationsDir"
  extensions : String := "fileExtensions"
  cacheSize : String := "templateCacheSize"
  level : String := "logLevel"

/-- The names under which settings are stated. -/
def names : Names := {}

/-- Settings from their members. -/
def checkMembers (ms : List (String × Value)) : Checked Settings :=
  let setting (name : String) := (lookupEntry name ms).getD .undefined
  let parts :=
    (checkLocale names.defaultLocale (setting names.defaultLocale)).both <|
    (checkFallback names.fallback (setting names.fallback)).both <|
    (checkDirectory names.directory (setting names.directory)).both <|
    (checkExtensions names.extensions (setting names.extensions)).both <|
    (checkCacheSize names.cacheSize (setting names.cacheSize)).both <|
    checkLevel names.level (setting names.level)
  parts.map fun (defaultLocale, fallback, directory, extensions, cacheSize, level) =>
    { defaultLocale, fallback, directory, extensions, cacheSize, level }

/-- A value of any kind as settings. -/
def check (v : Value) : Checked Settings :=
  schemaRules.record checkMembers "" v

/-- Settings as the value that states them. -/
def toValue (s : Settings) : Value :=
  .record
    [(names.defaultLocale, .text s.defaultLocale.tag),
      (names.fallback, (s.fallback.map fun l => Value.text l.tag).getD .null),
      (names.directory, .text s.directory),
      (names.extensions, .list (s.extensions.map .text)),
      (names.cacheSize, .number (.ofInt s.cacheSize)),
      (names.level, .text s.level.name)]

end Settings

end Phrasebook

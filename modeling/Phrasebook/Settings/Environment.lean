import Phrasebook.Number.Numeral
import Phrasebook.Settings.Basic

namespace Phrasebook

/-!
# Settings from the environment

Every setting has a variable of the environment, and a value for when the variable is absent.

* `Environment`: the variables that are there.
* `RawSettings.ofEnvironment`: the settings that the environment states, unchecked.
* `Settings.ofEnvironment`: the same, checked.
* `Settings.toEnvironment`: variables that state given settings.
-/

/-- The variables that are there.  A variable may be there without a text; then it states nothing,
    but no file gives it one. -/
abbrev Environment := Dict String (Option String)

/-- Settings as they are stated. -/
structure RawSettings where
  defaultLocale : String
  fallback : Option String
  directory : String
  extensions : List String
  cacheSize : Number.Double
  level : String
  deriving DecidableEq

namespace Environment

/-- The names of the variables. -/
structure Names where
  defaultLocale : String := "I18N_DEFAULT_LOCALE"
  fallback : String := "I18N_FALLBACK_LOCALE"
  directory : String := "I18N_TRANSLATIONS_DIR"
  extensions : String := "I18N_FILE_EXTENSIONS"
  cacheSize : String := "I18N_TEMPLATE_CACHE_SIZE"
  level : String := "LOG_LEVEL"

/-- The names of the variables. -/
def names : Names := {}

/-- The text of a variable. -/
def text? (env : Environment) (name : String) : Option String :=
  (env.get? name).join

/-- The text of a variable, unless it is absent or empty. -/
def stated? (env : Environment) (name : String) : Option String :=
  (env.text? name).filter fun s => !s.isEmpty

/-- The text of a variable without outer blanks, unless nothing is left of it. -/
def trimmed? (env : Environment) (name : String) : Option String :=
  ((env.text? name).map fun s => String.ofList (Text.trim s.toList)).filter fun s => !s.isEmpty

end Environment

/-- What is stated in place of a fallback locale to have none. -/
def noFallback : List Char := "none".toList

/-- The default locale when none is stated. -/
def usualLocale : String := "en"

/-- The directory when none is stated. -/
def usualDirectory : String := "translations"

/-- The level when none is stated. -/
def usualLevel : String := "info"

/-- The fallback locale that a text states. -/
def readFallback (s : String) : Option String :=
  let t := Text.trim s.toList
  if Text.lower t = noFallback then none else some (String.ofList t)

/-- A text without the dot at its start. -/
def dropDot : List Char → List Char
  | '.' :: s => s
  | s => s

/-- The extensions that a text states between commas; empty ones do not count. -/
def readExtensions (s : String) : List String :=
  (((s.toList.splitOnP (· == ',')).map fun e => Text.lower (dropDot (Text.trim e))).filter
    fun e => !e.isEmpty).map String.ofList

namespace RawSettings

open Environment (names)

/-- The settings that the environment states. -/
def ofEnvironment (env : Environment) : RawSettings :=
  let defaultLocale := (env.trimmed? names.defaultLocale).getD usualLocale
  { defaultLocale := defaultLocale
    fallback :=
      match env.stated? names.fallback with
      | some s => readFallback s
      | none => some defaultLocale
    directory := (env.trimmed? names.directory).getD usualDirectory
    extensions :=
      match env.stated? names.extensions with
      | some s => readExtensions s
      | none => ["json"]
    cacheSize :=
      match env.stated? names.cacheSize with
      | some s => .ofText s.toList
      | none => .ofInt Cache.defaultCapacity
    level :=
      String.ofList
        (Text.lower (Text.trim ((env.stated? names.level).getD usualLevel).toList)) }

/-- Stated settings as a value. -/
def toValue (s : RawSettings) : Value :=
  .record
    [(Settings.names.defaultLocale, .text s.defaultLocale),
      (Settings.names.fallback, (s.fallback.map Value.text).getD .null),
      (Settings.names.directory, .text s.directory),
      (Settings.names.extensions, .list (s.extensions.map .text)),
      (Settings.names.cacheSize, .number s.cacheSize),
      (Settings.names.level, .text s.level)]

end RawSettings

namespace Settings

/-- The settings of the environment, or the fault that lists everything wrong with them. -/
def ofEnvironment (env : Environment) : Except Fault Settings :=
  match check (RawSettings.ofEnvironment env).toValue with
  | .ok s => .ok s
  | .error is => .error (.misconfigured (is.map SettingIssue.inWords))

/-- Variables that state given settings. -/
def toEnvironment (s : Settings) : Environment :=
  let names := Environment.names
  Dict.ofList
    [(names.defaultLocale, some s.defaultLocale.tag),
      (names.fallback, some ((s.fallback.map Locale.tag).getD (String.ofList noFallback))),
      (names.directory, some s.directory),
      (names.extensions, some (String.intercalate "," s.extensions)),
      (names.cacheSize, some (Number.intText s.cacheSize)),
      (names.level, some s.level.name)]

end Settings

end Phrasebook

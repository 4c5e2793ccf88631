import Phrasebook.Fault
import Phrasebook.Text.Casing
import Phrasebook.Text.Units

namespace Phrasebook

/-!
# Message files

A file of messages is named after its domain and its locale, `messages.fr-CA.json`.

* `MessageFile.ofName`: the file that a name in a directory is, if its extension is accepted.
-/

/-- A file of messages. -/
structure MessageFile where
  path : String
  domain : String
  locale : Locale
  deriving DecidableEq

/-- The texts before and after the last dot. -/
def cutLastDot? (s : List Char) : Option (List Char × List Char) :=
  match s.reverse.dropWhile (· != '.') with
  | [] => none
  | _ :: before => some (before.reverse, (s.reverse.takeWhile (· != '.')).reverse)

namespace MessageFile

/-- The extensions that are accepted when none are stated. -/
def defaultExtensions : List String := ["json"]

/-- The extension of a name in lower case, if it is accepted. -/
def extension? (name : String) (extensions : List String) : Option String :=
  (cutLastDot? name.toList).bind fun parts =>
    let extension := String.ofList (Text.lower parts.2)
    if extensions.contains extension then some extension else none

/-- A name without a dot and this extension.  What is cut off is as long as the extension in lower
    case, measured in 16-bit units. -/
def stem (name extension : String) : List Char :=
  Text.dropLastUnits (Text.unitCount extension.toList + 1) name.toList

/-- The domain and the tag in a stem, neither of them empty. -/
def cutStem? (stem : List Char) : Option (String × String) :=
  match cutLastDot? stem with
  | none | some ([], _) | some (_, []) => none
  | some (domain, tag) => some (String.ofList domain, String.ofList tag)

/-- The message file that a name in a directory is; none where its extension is not accepted. -/
def ofName (name dir : String) (extensions : List String) :
    Except LoadFault (Option MessageFile) :=
  match extension? name extensions with
  | none => .ok none
  | some extension =>
    let path := Path.join dir name
    match cutStem? (stem name extension) with
    | none => .error (.fileName path name extension)
    | some (domain, tag) =>
      match Locale.ofTag? tag with
      | none => .error (.fileLocale path name tag)
      | some locale => .ok (some { path := path, domain := domain, locale := locale })

end MessageFile

end Phrasebook

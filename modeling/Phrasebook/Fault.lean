import Phrasebook.Cache
import Phrasebook.Files
import Phrasebook.Json.Fault
import Phrasebook.Value
import Phrasebook.Vault

namespace Phrasebook

/-!
# Faults

What can go wrong, as causes.

* `LoadFault`: why messages cannot be loaded.
* `Fault`: the errors of this library; `Fault.title`, `Fault.code`, `Fault.message` and
  `Fault.details` say how each is reported.
* `Failure`: everything that an operation can end with instead of an answer.
-/

/-- Why the content of a message file is refused, at one of its names. -/
structure ContentIssue where
  path : String
  message : String
  deriving DecidableEq, Repr

/-- Why messages cannot be loaded. -/
inductive LoadFault
  /-- the directory cannot be listed -/
  | directory (dir : String) (cause : FileFault)
  /-- a file cannot be read -/
  | file (path : String) (cause : FileFault)
  /-- a file name has no domain or no locale -/
  | fileName (path name extension : String)
  /-- a file name names a locale that is not known -/
  | fileLocale (path name tag : String)
  /-- a file is not JSON -/
  | notJson (path : String) (f : Json.Fault)
  /-- a file is JSON of another shape -/
  | content (path : String) (issues : List ContentIssue)
  /-- a file states half of a surrogate pair alone, which no string here has -/
  | halfPair (path : String)
  /-- as its raiser states it -/
  | stated (code message path : String) (details : Option (List (String × Value)))

namespace LoadFault

/-- The code of a fault. -/
def code : LoadFault → String
  | directory .. => "DIRECTORY_UNREADABLE"
  | file .. => "FILE_UNREADABLE"
  | fileName .. | fileLocale .. => "INVALID_FILENAME"
  | notJson .. | content .. | halfPair _ => "INVALID_FILE_CONTENT"
  | stated code .. => code

/-- The path that a fault is about. -/
def path : LoadFault → String
  | directory path _ | file path _ | fileName path .. | fileLocale path .. | notJson path _
  | content path _ | halfPair path | stated _ _ path _ => path

/-- A fault in words. -/
def message : LoadFault → String
  | directory dir _ => "Translation directory '" ++ dir ++ "' could not be read"
  | file path _ => "Translation file '" ++ path ++ "' could not be read"
  | fileName _ name extension =>
    "Translation file '" ++ name ++ "' must be named \x7bdomain\x7d.\x7blocale\x7d." ++ extension
  | fileLocale _ name tag =>
    "Translation file '" ++ name ++ "' names unknown locale '" ++ tag ++ "'"
  | notJson path _ => "Translation file '" ++ path ++ "' is not valid JSON"
  | content path _ =>
    "Translation file '" ++ path ++ "' must be a flat object of string messages"
  | halfPair path =>
    "Translation file '" ++ path ++ "' must not have half of a surrogate pair alone"
  | stated _ message _ _ => message

/-- An issue with the content of a file, as a detail. -/
def issueValue (i : ContentIssue) : Value :=
  .record [("path", .text i.path), ("message", .text i.message)]

/-- What a fault has to say beyond its path. -/
def further : LoadFault → List (String × Value)
  | directory _ cause | file _ cause =>
    ("error", .text cause.inWords) :: (cause.kind?.toList.map fun k => ("errorName", .text k))
  | fileName .. | halfPair _ => []
  | fileLocale _ _ tag => [("tag", .text tag)]
  | notJson _ f => [("error", .text f.inWords), ("errorName", .text "SyntaxError")]
  | content _ issues => [("issues", .list (issues.map issueValue))]
  | stated _ _ _ details => details.getD []

/-- The details of a fault: its path, which a further detail of that name replaces. -/
def details (f : LoadFault) : List (String × Value) :=
  Members.ofList (("path", .text f.path) :: f.further)

end LoadFault

/-- The errors of this library. -/
inductive Fault
  /-- a tag names no known locale -/
  | unknownLocale (tag : String)
  /-- a template is malformed -/
  | malformedTemplate (reason template : String)
  /-- a message has plural branches and no count was given -/
  | missingCount (locale : Locale) (domain id : String)
  /-- no locale that was tried has the message -/
  | notFound (domain id : String) (tried : List Locale)
  /-- messages cannot be loaded -/
  | unloadable (cause : LoadFault)
  /-- settings are invalid -/
  | misconfigured (issues : List String)
  /-- as its raiser states it -/
  | stated (message code : String) (details : Option (List (String × Value)))

namespace Fault

/-- The name of a fault but for the word `Error`. -/
def title : Fault → String
  | unknownLocale _ => "LocaleParse"
  | malformedTemplate .. => "Template"
  | missingCount .. => "MissingPluralContext"
  | notFound .. => "MessageNotFound"
  | unloadable _ => "CatalogueLoad"
  | misconfigured _ => "Configuration"
  | stated .. => "Translation"

/-- The name of a fault. -/
def name (f : Fault) : String :=
  f.title ++ "Error"

/-- The code of a fault. -/
def code : Fault → String
  | unknownLocale _ => "INVALID_LOCALE"
  | malformedTemplate .. => "INVALID_TEMPLATE"
  | missingCount .. => "MISSING_PLURAL_CONTEXT"
  | notFound .. => "MESSAGE_NOT_FOUND"
  | unloadable cause => cause.code
  | misconfigured _ => "INVALID_CONFIGURATION"
  | stated _ code _ => code

/-- Tags in a row. -/
def tagsInWords (ls : List Locale) : String :=
  String.intercalate ", " (ls.map Locale.tag)

/-- A fault in words. -/
def message : Fault → String
  | unknownLocale tag =>
    "Invalid locale: expected a valid locale code but found '" ++ tag ++ "'"
  | malformedTemplate reason _ => "Malformed template: " ++ reason
  | missingCount locale domain id =>
    "Message '" ++ id ++ "' in '" ++ domain ++ "' domain for '" ++ locale.tag
      ++ "' locale is pluralized but no count was provided"
  | notFound domain id tried =>
    "Message '" ++ id ++ "' could not be found in '" ++ domain ++ "' domain for any of ["
      ++ tagsInWords tried ++ "]"
  | unloadable cause => cause.message
  | misconfigured issues =>
    "Configuration validation failed: " ++ String.intercalate "; " issues
  | stated message _ _ => message

/-- What a fault is about, beyond its message. -/
def own : Fault → List (String × Value)
  | unknownLocale tag => [("tag", .text tag)]
  | malformedTemplate _ template => [("template", .text template)]
  | missingCount locale domain id =>
    [("locale", .text locale.tag), ("domain", .text domain), ("id", .text id)]
  | notFound domain id tried =>
    [("domain", .text domain), ("id", .text id),
      ("attemptedLocales", .list (tried.map fun l => .text l.tag))]
  | unloadable cause => [("path", .text cause.path)]
  | misconfigured issues => [("issues", .list (issues.map .text))]
  | stated .. => []

/-- The details of a fault: what it is about, and for some faults more. -/
def details : Fault → Option (List (String × Value))
  | unloadable cause => some cause.details
  | stated _ _ details => details
  | f => some f.own

/-- A fault as a value. -/
def toValue (f : Fault) : Value :=
  .fault f.title f.message f.code f.details

/-- The fault of a template that cannot be read. -/
def ofTemplate (template : String) (f : TemplateFault) : Fault :=
  malformedTemplate f.inWords template

/-- The codes of faults. -/
def codes : List String :=
  ["INVALID_LOCALE", "INVALID_TEMPLATE", "MISSING_PLURAL_CONTEXT", "MESSAGE_NOT_FOUND",
    "DIRECTORY_UNREADABLE", "FILE_UNREADABLE", "INVALID_FILENAME", "INVALID_FILE_CONTENT",
    "INVALID_CONFIGURATION"]

end Fault

/-- What an operation can end with instead of an answer. -/
inductive Failure
  /-- an error of this library -/
  | fault (f : Fault)
  /-- a service is asked for messages before it has any -/
  | uninitialized
  /-- a number is no capacity of a cache -/
  | capacity (f : CapacityFault)
  /-- a vault stays closed -/
  | closed (f : VaultFault)
  /-- nothing can be put at a path -/
  | file (f : FileFault)
  /-- a text is not JSON -/
  | notJson (f : Json.Fault)
  /-- an integer stands where JSON is to be written -/
  | unwritable
  /-- an error of a formatter that is not this library's -/
  | foreign (message : String)

namespace Failure

/-- The name of a failure. -/
def name : Failure → String
  | fault f => f.name
  | uninitialized | foreign _ => "Error"
  | capacity f => f.kind
  | closed f => f.kind
  | file f => f.kind?.getD "Error"
  | notJson _ => "SyntaxError"
  | unwritable => "TypeError"

/-- A failure in words. -/
def message : Failure → String
  | fault f => f.message
  | uninitialized => "I18n service is not initialized"
  | capacity f => f.inWords
  | closed f => f.inWords
  | file f => f.inWords
  | notJson f => f.inWords
  | unwritable => "Do not know how to serialize a BigInt"
  | foreign message => message

end Failure

/-- A fault as JSON text, where `clock` is the time now. -/
def Fault.json (clock : String) (f : Fault) : Except Failure String :=
  if f.toValue.hasInteger then .error .unwritable
  else .ok ((f.toValue.json? clock).getD "null")

end Phrasebook

import Phrasebook.Json.Quoted
import Phrasebook.Locale
import Phrasebook.Members
import Phrasebook.Number.Layout

namespace Phrasebook

/-!
# Values

Values of any kind, as log lines, error details and unchecked settings hold them.

* `Value`: the kinds.
* `Value.shown`: a value as it is shown in running text.
* `Value.json?`: a value as JSON, if it has such a form; `Value.hasInteger` tells which values
  cannot be written.
* `Value.errorEntries`: what a value raised as an error has to tell.
-/

/-- A value of any kind. -/
inductive Value
  | undefined
  | null
  | truth (b : Bool)
  | number (x : Number.Double)
  | integer (n : Int)
  | text (s : String)
  | list (items : List Value)
  | record (members : List (String × Value))
  | locale (l : Locale)
  /-- an error with only a message, and a name where it was given one -/
  | error (name : Option String) (message : String)
  /-- an error of this library: its name but for the word `Error`, its message, code and
      details -/
  | fault (title message code : String) (details : Option (List (String × Value)))

namespace Value

/-- An error as it is shown: its name and its message, if it has both. -/
def errorShown (name message : String) : String :=
  if name.isEmpty then message
  else if message.isEmpty then name
  else name ++ ": " ++ message

/-- The name of an error that was given none. -/
def plainErrorName : String := "Error"

/-- A record as it is shown. -/
def recordShown : String := "[object Object]"

mutual

/-- A value as it is shown in running text. -/
def shown : Value → String
  | undefined => "undefined"
  | null => "null"
  | truth b => if b then "true" else "false"
  | number x => x.text
  | integer n => Number.intText n
  | text s => s
  | list items => String.intercalate "," (itemsShown items)
  | record _ => recordShown
  | locale l => l.tag
  | error name message => errorShown (name.getD plainErrorName) message
  | fault title message .. => errorShown (title ++ plainErrorName) message

/-- The items of a list as they are shown; one that is absent is shown as nothing. -/
def itemsShown : List Value → List String
  | [] => []
  | undefined :: vs => "" :: itemsShown vs
  | null :: vs => "" :: itemsShown vs
  | v :: vs => shown v :: itemsShown vs

end

/-! ### Errors -/

/-- The name of an error as an entry of a context, unless it tells nothing. -/
def nameEntry (name : String) : List (String × String) :=
  if name.isEmpty || name == plainErrorName then [] else [("errorName", name)]

/-- What a value raised as an error has to tell, as entries of a context. -/
def errorEntries : Value → List (String × String)
  | error name message => ("error", message) :: nameEntry (name.getD plainErrorName)
  | fault title message .. => ("error", message) :: nameEntry (title ++ plainErrorName)
  | v => [("error", v.shown)]

/-- Whether a value is an error of this library. -/
def isFault : Value → Bool
  | fault .. => true
  | _ => false

/-! ### JSON -/

/-- The members of an object between braces. -/
def braced (members : List String) : String :=
  "\x7b" ++ String.intercalate "," members ++ "\x7d"

mutual

/-- Whether an integer, which JSON text cannot hold, stands anywhere in a value. -/
def hasInteger : Value → Bool
  | integer _ => true
  | list items => anyInteger items
  | record members => anyMemberInteger members
  | fault _ _ _ (some details) => anyMemberInteger details
  | _ => false

/-- Whether an integer stands in a list of values. -/
def anyInteger : List Value → Bool
  | [] => false
  | v :: vs => hasInteger v || anyInteger vs

/-- Whether an integer stands in a list of members. -/
def anyMemberInteger : List (String × Value) → Bool
  | [] => false
  | (_, v) :: ms => hasInteger v || anyMemberInteger ms

end

/-- An error of this library as JSON, given its details as members. -/
def faultJson (clock title message code : String) (details : List String) : String :=
  braced ([Json.quote "error" ++ ":" ++ Json.quote title,
      Json.quote "code" ++ ":" ++ Json.quote code,
      Json.quote "message" ++ ":" ++ Json.quote message]
    ++ details ++ [Json.quote "timestamp" ++ ":" ++ Json.quote clock])

mutual

/-- A value as JSON text, where `clock` is the time now; nothing where the value is undefined. -/
def json? (clock : String) : Value → Option String
  | undefined => none
  | null => some "null"
  | truth b => some (if b then "true" else "false")
  | number x => some (if x.isFinite then x.text else "null")
  | integer n => some (Number.intText n)
  | text s => some (Json.quote s)
  | list items => some ("[" ++ String.intercalate "," (itemsJson clock items) ++ "]")
  | record members => some (braced (membersJson clock members))
  | locale l => some (Json.quote l.tag)
  | error name _ =>
    some (braced (name.toList.map fun n => Json.quote "name" ++ ":" ++ Json.quote n))
  | fault title message code details =>
    some (faultJson clock title message code
      (match details with
        | none => []
        | some ms => [Json.quote "details" ++ ":" ++ braced (membersJson clock ms)]))

/-- The items of a list as JSON; one that is undefined is null. -/
def itemsJson (clock : String) : List Value → List String
  | [] => []
  | v :: vs => (json? clock v).getD "null" :: itemsJson clock vs

/-- Members as JSON; one that is undefined is left out. -/
def membersJson (clock : String) : List (String × Value) → List String
  | [] => []
  | (name, v) :: ms =>
    match json? clock v with
    | some t => (Json.quote name ++ ":" ++ t) :: membersJson clock ms
    | none => membersJson clock ms

end

end Value

end Phrasebook

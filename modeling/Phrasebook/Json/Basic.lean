import Phrasebook.Number.Numeral
import Phrasebook.Text.Units

namespace Phrasebook

/-!
# JSON values

* `Json`: a JSON value.  The members of an object stand in the order of the text, a name as often
  as it was given.
* `Json.kind`: the kind of a value, in words.
* `Json.text?`, `Json.members?`: what a text or an object holds.
-/

/-- A JSON value.  Its texts are given by their units, since an escape may state half of a pair. -/
inductive Json
  | null
  | truth (b : Bool)
  | number (x : Number.Double)
  | text (s : UnitText)
  | list (items : List Json)
  | record (members : List (UnitText × Json))

namespace Json

/-- The kind of a value, in words. -/
def kind : Json → String
  | null => "null"
  | truth _ => "boolean"
  | number _ => "number"
  | text _ => "string"
  | list _ => "array"
  | record _ => "object"

/-- The text of a value, where it is one. -/
def text? : Json → Option UnitText
  | text s => some s
  | _ => none

/-- The members of a value, where it is an object. -/
def members? : Json → Option (List (UnitText × Json))
  | record members => some members
  | _ => none

end Json

end Phrasebook

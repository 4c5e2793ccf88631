import Phrasebook.Number.Layout
import Phrasebook.Text.Literal

namespace Phrasebook.Json

/-!
# What keeps a text from being JSON

* `Fault`: the first place at which a text is not JSON, and the cause.
* `Fault.inWords`: the place and the cause, in words.
-/

/-- Why a text cannot go on, or end, at a place. -/
inductive Cause
  | unexpectedEnd
  | unexpectedCharacter
  | unexpectedNumber
  | unexpectedText
  /-- neither a name nor the end of an object that has just begun -/
  | noFirstName
  /-- no name after a comma -/
  | noName
  | noColon
  /-- neither a comma nor the end of a list -/
  | openList
  /-- neither a comma nor the end of an object -/
  | openRecord
  /-- something after the value -/
  | afterValue
  | openText
  | controlCharacter
  | badEscape
  | badUnit
  /-- no digit after a minus sign -/
  | noDigit
  /-- no digit after a point -/
  | noFraction
  /-- no digit in an exponent -/
  | noExponent
  deriving DecidableEq, Repr

/-- A place at which a text is not JSON: what stands before it and after it, and the cause. -/
structure Fault where
  cause : Cause
  before : List Char
  after : List Char

/-! ### In words -/

namespace Fault

/-- The number of the line, and of the column in it, after a text. -/
def lineAndColumn (before : List Char) : Nat × Nat :=
  let rec go (line column : Nat) : List Char → Nat × Nat
    | [] => (line, column)
    | '\r' :: '\n' :: s => go (line + 1) 1 s
    | c :: s =>
      if c = '\n' ∨ c = '\r' then go (line + 1) 1 s
      else go line (column + (Text.charUnits c).length) s
  go 1 1 before

/-- The place of a fault. -/
def placeInWords (f : Fault) : String :=
  let (line, column) := lineAndColumn f.before
  " at position " ++ Number.intText (Text.unitCount f.before) ++ " (line " ++ Number.intText line
    ++ " column " ++ Number.intText column ++ ")"

/-- How many units are shown on either side of a place. -/
def context : Nat := 10

/-- The end of a text, `n` units long. -/
def takeLastUnits (n : Nat) (s : List Char) : List Char :=
  (Text.takeUnits n s.reverse).reverse

/-- The text around a place, with dots where it goes on. -/
def excerpt (f : Fault) : String :=
  let before := Text.unitCount f.before
  let after := Text.unitCount f.after
  if before + after ≤ 2 * context then
    "\"" ++ String.ofList (f.before ++ f.after) ++ "\""
  else
    (if before < context then "\"" ++ String.ofList f.before
      else "...\"" ++ String.ofList (takeLastUnits context f.before))
      ++ (if before < context || context < after then
          String.ofList (Text.takeUnits context f.after) ++ "\"..."
        else String.ofList f.after ++ "\"")

/-- Words that are often taken for JSON; they are not shown as an excerpt. -/
def mistaken : List String := ["[object Object]", "NaN", "Infinity", "undefined"]

/-- A fault in words. -/
def inWords (f : Fault) : String :=
  let placed (what : String) : String := what ++ " in JSON" ++ f.placeInWords
  match f.cause with
  | .unexpectedEnd => "Unexpected end of JSON input"
  | .unexpectedCharacter =>
    let whole := String.ofList (f.before ++ f.after)
    if mistaken.contains whole then "\"" ++ whole ++ "\" is not valid JSON"
    else
      "Unexpected token '" ++ String.ofList (f.after.take 1) ++ "', " ++ f.excerpt
        ++ " is not valid JSON"
  | .unexpectedNumber => placed "Unexpected number"
  | .unexpectedText => placed "Unexpected string"
  | .noFirstName => placed "Expected property name or '\x7d'"
  | .noName => placed "Expected double-quoted property name"
  | .noColon => placed "Expected ':' after property name"
  | .openList => placed "Expected ',' or ']' after array element"
  | .openRecord => placed "Expected ',' or '\x7d' after property value"
  | .afterValue => "Unexpected non-whitespace character after JSON" ++ f.placeInWords
  | .openText => placed "Unterminated string"
  | .controlCharacter => placed "Bad control character in string literal"
  | .badEscape => placed "Bad escaped character"
  | .badUnit => placed "Bad Unicode escape"
  | .noDigit => placed "No number after minus sign"
  | .noFraction => placed "Unterminated fractional number"
  | .noExponent => placed "Exponent part is missing a number"

end Fault

end Phrasebook.Json

import Phrasebook.Json.Basic
import Phrasebook.Json.Fault

namespace Phrasebook.Json

/-!
# Reading JSON

A text is read character by character; the lists and objects that are still open stand on a stack.
Reading stops at the first place where the text cannot go on as JSON.

* `Part`: what is being read; `Frame`: a list or an object around it.
* `Reader.step`: one character read, or why it cannot stand there.
* `read`: the value that a text writes, or the first place at which the text is not JSON.
-/

/-- White space between tokens. -/
def isSpace (c : Char) : Bool :=
  c == ' ' || c == '\t' || c == '\n' || c == '\r'

/-- The unit that a character after a backslash stands for. -/
def escaped? : Char → Option Nat
  | '"' => some 0x22
  | '\\' => some 0x5C
  | '/' => some 0x2F
  | 'b' => some 0x08
  | 'f' => some 0x0C
  | 'n' => some 0x0A
  | 'r' => some 0x0D
  | 't' => some 0x09
  | _ => none

/-! ### What is being read -/

/-- A list or an object of which a value is being read. -/
inductive Frame
  /-- a list with these items before the value, in reverse -/
  | list (items : List Json)
  /-- an object with these members before the value, in reverse, and the name of the value -/
  | record (members : List (UnitText × Json)) (name : UnitText)

/-- How far a number has come. -/
inductive NumberPart
  | sign
  | zero
  | whole
  | point
  | fraction
  | exponentMark
  | exponentSign
  | exponent
  deriving DecidableEq, Repr

/-- What a text is. -/
inductive Role
  /-- a value -/
  | value
  /-- the name of a member, after these members in reverse -/
  | name (members : List (UnitText × Json))

/-- What is being read. -/
inductive Part
  /-- a value, or the end of a list that has just begun -/
  | value
  /-- a name after these members in reverse; or the end of an object that has just begun -/
  | name (members : List (UnitText × Json))
  /-- the colon after these members in reverse and this name -/
  | colon (members : List (UnitText × Json)) (name : UnitText)
  /-- what follows a value -/
  | next (v : Json)
  /-- a word for a value, of which these characters are to come -/
  | word (owed : List Char) (v : Json)
  /-- a number, with its characters in reverse -/
  | number (part : NumberPart) (cs : List Char)
  /-- a text, with its units in reverse -/
  | text (role : Role) (ns : List Nat)
  /-- the character after a backslash -/
  | escape (role : Role) (ns : List Nat)
  /-- a unit with a value so far, of which so many digits are to come -/
  | unit (role : Role) (ns : List Nat) (owed value : Nat)

/-- What is open, the innermost first, and what is being read. -/
structure Reader where
  stack : List Frame := []
  part : Part := .value

namespace Reader

/-! ### One character -/

/-- The cause when a character stands where no token starts with it. -/
def causeOf (c : Char) : Cause :=
  if c = '"' then .unexpectedText
  else if c = '-' || Number.isDigit c then .unexpectedNumber
  else .unexpectedCharacter

/-- The start of a value. -/
def value (stack : List Frame) (c : Char) : Except Cause Reader :=
  let goOn (p : Part) : Except Cause Reader := .ok { stack := stack, part := p }
  match c, stack with
  | '[', stack => .ok { stack := .list [] :: stack, part := .value }
  | '{', _ => goOn (.name [])
  | '"', _ => goOn (.text .value [])
  | '-', _ => goOn (.number .sign [c])
  | '0', _ => goOn (.number .zero [c])
  | 't', _ => goOn (.word "rue".toList (.truth true))
  | 'f', _ => goOn (.word "alse".toList (.truth false))
  | 'n', _ => goOn (.word "ull".toList .null)
  | ']', .list [] :: stack => .ok { stack := stack, part := .next (.list []) }
  | c, _ => if Number.isDigit c then goOn (.number .whole [c]) else .error .unexpectedCharacter

/-- What follows a value. -/
def next (stack : List Frame) (v : Json) (c : Char) : Except Cause Reader :=
  if isSpace c then .ok { stack := stack, part := .next v }
  else
    match stack, c with
    | [], _ => .error .afterValue
    | .list items :: stack, ',' => .ok { stack := .list (v :: items) :: stack, part := .value }
    | .list items :: stack, ']' =>
      .ok { stack := stack, part := .next (.list (v :: items).reverse) }
    | .list _ :: _, _ => .error .openList
    | .record ms name :: stack, ',' => .ok { stack := stack, part := .name ((name, v) :: ms) }
    | .record ms name :: stack, '}' =>
      .ok { stack := stack, part := .next (.record ((name, v) :: ms).reverse) }
    | .record .. :: _, _ => .error .openRecord

/-- The number that characters write. -/
def numberOf : List Char → Json
  | '-' :: cs => .number (Number.Double.ofUnsigned true cs)
  | cs => .number (Number.Double.ofUnsigned false cs)

/-- How far a number has come with one more character; none where it is over before it. -/
def numberNext? (p : NumberPart) (c : Char) : Except Cause (Option NumberPart) :=
  let isDigit := Number.isDigit c
  let isMark := c = 'e' ∨ c = 'E'
  match p with
  | .sign => if c = '0' then .ok (some .zero) else if isDigit then .ok (some .whole)
    else .error .noDigit
  | .zero => if c = '.' then .ok (some .point) else if isMark then .ok (some .exponentMark)
    else if isDigit then .error .unexpectedNumber else .ok none
  | .whole => if c = '.' then .ok (some .point) else if isMark then .ok (some .exponentMark)
    else if isDigit then .ok (some .whole) else .ok none
  | .point => if isDigit then .ok (some .fraction) else .error .noFraction
  | .fraction => if isMark then .ok (some .exponentMark) else if isDigit then .ok (some .fraction)
    else .ok none
  | .exponentMark => if c = '+' ∨ c = '-' then .ok (some .exponentSign)
    else if isDigit then .ok (some .exponent) else .error .noExponent
  | .exponentSign => if isDigit then .ok (some .exponent) else .error .noExponent
  | .exponent => if isDigit then .ok (some .exponent) else .ok none

/-- A number with one more character, or what follows it. -/
def number (stack : List Frame) (p : NumberPart) (cs : List Char) (c : Char) :
    Except Cause Reader :=
  match numberNext? p c with
  | .error cause => .error cause
  | .ok (some p) => .ok { stack := stack, part := .number p (c :: cs) }
  | .ok none => next stack (numberOf cs.reverse) c

/-- What follows a text. -/
def afterText (role : Role) (t : UnitText) : Part :=
  match role with
  | .value => .next (.text t)
  | .name ms => .colon ms t

/-- One character read. -/
def step (r : Reader) (c : Char) : Except Cause Reader :=
  let goOn (p : Part) : Except Cause Reader := .ok { r with part := p }
  match r.part with
  | .value => if isSpace c then .ok r else value r.stack c
  | .name ms =>
    if isSpace c then .ok r
    else if c = '"' then goOn (.text (.name ms) [])
    else if !ms.isEmpty then .error .noName
    else if c = '}' then goOn (.next (.record []))
    else .error .noFirstName
  | .colon ms name =>
    if isSpace c then .ok r
    else if c = ':' then .ok { stack := .record ms name :: r.stack, part := .value }
    else .error .noColon
  | .next v => next r.stack v c
  | .word [] v => next r.stack v c
  | .word (d :: ds) v => if c = d then goOn (.word ds v) else .error (causeOf c)
  | .number p cs => number r.stack p cs c
  | .text role ns =>
    if c = '"' then goOn (afterText role ⟨ns.reverse⟩)
    else if c = '\\' then goOn (.escape role ns)
    else if c.toNat < 0x20 then .error .controlCharacter
    else goOn (.text role ((Text.charUnits c).reverse ++ ns))
  | .escape role ns =>
    if c = 'u' then goOn (.unit role ns 4 0)
    else
      match escaped? c with
      | some n => goOn (.text role (n :: ns))
      | none => .error .badEscape
  | .unit role ns owed value =>
    match Number.digit? 16 c with
    | some d =>
      let value := value * 16 + d
      goOn (if owed ≤ 1 then .text role (value :: ns) else .unit role ns (owed - 1) value)
    | none => .error .badUnit

/-! ### The end -/

/-- The value at the end of the text, if nothing is left open. -/
def close (stack : List Frame) (v : Json) : Except Cause Json :=
  match stack with
  | [] => .ok v
  | .list _ :: _ => .error .openList
  | .record .. :: _ => .error .openRecord

/-- The value that has been read, or why the text cannot end here. -/
def finish (r : Reader) : Except Cause Json :=
  match r.part with
  | .value | .word (_ :: _) _ => .error .unexpectedEnd
  | .name ms => .error (if ms.isEmpty then .noFirstName else .noName)
  | .colon .. => .error .noColon
  | .text .. | .escape .. => .error .openText
  | .unit .. => .error .badUnit
  | .number .sign _ => .error .noDigit
  | .number .point _ => .error .noFraction
  | .number .exponentMark _ | .number .exponentSign _ => .error .noExponent
  | .number _ cs => close r.stack (numberOf cs.reverse)
  | .next v | .word [] v => close r.stack v

/-- The value of a text of which `before`, in reverse, has been read. -/
def readAfter (r : Reader) (before : List Char) : List Char → Except Fault Json
  | [] => r.finish.mapError fun cause => { cause := cause, before := before.reverse, after := [] }
  | c :: cs =>
    match r.step c with
    | .ok r => readAfter r (c :: before) cs
    | .error cause => .error { cause := cause, before := before.reverse, after := c :: cs }

end Reader

/-- The value that a text writes, or the first place at which the text is not JSON. -/
def read (s : String) : Except Fault Json :=
  Reader.readAfter {} [] s.toList

example : (match read "[1, 2" with | .ok _ => "" | .error f => f.inWords)
    = "Expected ',' or ']' after array element in JSON at position 5 (line 1 column 6)" := by
  decide +kernel

example : (match read "[1, NaN, 2, 3, 4, 5]" with | .ok _ => "" | .error f => f.inWords)
    = "Unexpected token 'N', \"[1, NaN, 2, 3, 4, 5]\" is not valid JSON" := by
  decide +kernel

end Phrasebook.Json

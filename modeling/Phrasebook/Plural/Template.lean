import Phrasebook.Number.Layout
import Phrasebook.Number.Numeral
import Phrasebook.Plural.Branches
import Phrasebook.Plural.Guard
import Phrasebook.Scalar

namespace Phrasebook

/-!
# Templates

What a raw template says: one text, or branches of which a count chooses one.

* `Template`: the two forms; every branch but the last, the *fallback*, has a guard.
* `Template.parse`: the template that a text writes, or the fault of its first malformed branch.
* `Template.select`: the text that a count chooses.
* `Branch.written`, `Template.written`: a template in its plainest spelling.
-/

open Number (Double)

/-- A text with the condition under which it is chosen. -/
structure Branch where
  guard : Guard Int
  text : String
  deriving DecidableEq, Repr

/-- A template that has been read. -/
inductive Template
  /-- one text, whatever the count -/
  | simple (text : String)
  /-- the branches to try in order, and the text for when no guard holds -/
  | plural (branches : List Branch) (fallback : String)
  deriving DecidableEq, Repr

/-! ### Faults -/

/-- The number of a guard that is not an integer. -/
inductive GuardPlace
  | listed
  | highOnly
  | lowOnly
  | low
  | high
  deriving DecidableEq, Repr

/-- Why a branch is malformed. -/
inductive BranchFault
  /-- it does not start with a guard -/
  | unguarded
  /-- its guard does not end -/
  | unclosed
  /-- a number of its guard is not an integer of at most 53 bits -/
  | notInteger (place : GuardPlace) (value : String)
  deriving DecidableEq, Repr

/-- The number of a guard, in words. -/
def GuardPlace.inWords : GuardPlace → String
  | listed => "value in match guard"
  | highOnly => "'to' value in range-to guard"
  | lowOnly => "'from' value in range-from guard"
  | low => "'from' value in range guard"
  | high => "'to' value in range guard"

/-- A fault of a branch, in words. -/
def BranchFault.inWords (branch : String) : BranchFault → String
  | unguarded => "failed to parse guard for '" ++ branch ++ "', expected '\x7b'"
  | unclosed =>
    "failed to parse guard for '" ++ branch ++ "', expected '\x7d' but branch was terminated"
  | notInteger place value =>
    "failed to parse " ++ place.inWords ++ " for '" ++ branch ++ "', '" ++ value
      ++ "' is not an integer"

/-- A fault of a template: the text of its first malformed branch, and why that is malformed. -/
structure TemplateFault where
  branch : String
  fault : BranchFault
  deriving DecidableEq, Repr

/-- A fault of a template, in words. -/
def TemplateFault.inWords (f : TemplateFault) : String :=
  f.fault.inWords f.branch

/-! ### Reading -/

namespace Plural

/-- The integer that a text writes with an optional sign and one or more digits. -/
def signedDigits? (s : List Char) : Option Int :=
  let (negative, digits) := Number.splitSign s
  (Number.valueOf? 10 digits).map fun n => if negative then -(n : Int) else n

/-- The integer of at most 53 bits that a text writes, blanks around it ignored. -/
def boundOf? (s : List Char) : Option Int :=
  (signedDigits? (Text.trim s)).filter fun n => n.natAbs ≤ Double.maxSafe

/-- The number at one place of a guard. -/
def readBound (place : GuardPlace) (s : List Char) : Except BranchFault Int :=
  match boundOf? s with
  | some n => .ok n
  | none => .error (.notInteger place (String.ofList (Text.trim s)))

/-- A text cut at its first pair of dots. -/
def cutDots? : List Char → Option (List Char × List Char)
  | [] => none
  | '.' :: '.' :: s => some ([], s)
  | c :: s => (cutDots? s).map fun p => (c :: p.1, p.2)

/-- The guard that the text between its braces writes. -/
def readGuard (body : List Char) : Except BranchFault (Guard Int) :=
  match cutDots? body with
  | none => do
    let values ← (body.splitOnP (· == ',')).mapM (readBound .listed)
    return .oneOf values
  | some ([], high) => do
    let high ← readBound .highOnly high
    return .atMost high
  | some (low, []) => do
    let low ← readBound .lowOnly low
    return .atLeast low
  | some (low, high) => do
    let low ← readBound .low low
    let high ← readBound .high high
    return .between low high

/-- The branch that a text without outer blanks writes. -/
def readBranch (s : List Char) : Except BranchFault Branch :=
  match s with
  | '{' :: t =>
    match t.dropWhile (· != '}') with
    | [] => .error .unclosed
    | _ :: text => do
      let guard ← readGuard (t.takeWhile (· != '}'))
      return { guard := guard, text := String.ofList (unescape (Text.trim text)) }
  | _ => .error .unguarded

/-- A branch, or the fault of the template that holds it. -/
def readPiece (s : List Char) : Except TemplateFault Branch :=
  match readBranch s with
  | .ok b => .ok b
  | .error f => .error ⟨String.ofList s, f⟩

/-- The template that a list of pieces writes, where `whole` is the text they were cut from. -/
def readPieces (whole : List Char) (ps : List (List Char)) : Except TemplateFault Template :=
  match ps.reverse with
  | [] | [_] => .ok (.simple (String.ofList (unescape whole)))
  | last :: before => do
    let branches ← (before.reverse.map Text.trim).mapM readPiece
    return .plural branches (String.ofList (unescape (Text.trim last)))

end Plural

namespace Template

/-- The template that a text writes. -/
def parse (source : String) : Except TemplateFault Template :=
  Plural.readPieces source.toList (Plural.pieces source.toList)

/-- The first branch whose guard holds of a number, as its text; else the fallback. -/
def choose (branches : List Branch) (fallback : String) (x : Double) : String :=
  match branches.find? fun b => b.guard.onCounts.holds x with
  | some b => b.text
  | none => fallback

/-- The text that a count chooses.  A count that counts nothing chooses the fallback. -/
def select (branches : List Branch) (fallback : String) (count : Scalar) : String :=
  match count.count? with
  | some x => choose branches fallback x
  | none => fallback

end Template

/-! ### Writing -/

/-- A guard in its plainest spelling, without braces. -/
def Guard.written : Guard Int → List Char
  | oneOf values => [','].intercalate (values.map fun n => (Number.intText n).toList)
  | between low high =>
    (Number.intText low).toList ++ '.' :: '.' :: (Number.intText high).toList
  | atLeast low => (Number.intText low).toList ++ ['.', '.']
  | atMost high => '.' :: '.' :: (Number.intText high).toList

/-- A branch in its plainest spelling. -/
def Branch.written (b : Branch) : List Char :=
  '{' :: (b.guard.written ++ '}' :: ' ' :: Plural.escape b.text.toList)

/-- Branches and a fallback in their plainest spelling. -/
def Template.written (branches : List Branch) (fallback : String) : List Char :=
  [' ', '|', ' '].intercalate
    (branches.map Branch.written ++ [Plural.escape fallback.toList])

example :
    (Template.parse "\x7b1\x7d one | \x7b?\x7d many").toOption
      = some (.plural [⟨.oneOf [1], "one"⟩] "\x7b?\x7d many") := by
  decide +kernel

end Phrasebook

import Phrasebook.Text.Casing
import Phrasebook.Value

namespace Phrasebook

/-!
# Logging

Operations issue log events; what is written depends on the level in force, and nothing else does.

* `Severity`: how grave a line is.
* `Line`: a line; `Line.text?` is how it is written.
* `LogEvent`: a line, or a change of the level in force.
* `written`: the lines that are written of those that are issued.
-/

/-- How grave a line is. -/
inductive Severity
  | debug
  | info
  | warn
  | error
  deriving DecidableEq, Repr

namespace Severity

/-- Every severity, the least grave first. -/
def all : List Severity := [debug, info, warn, error]

/-- The place of a severity among all. -/
def rank : Severity → Nat
  | debug => 0
  | info => 1
  | warn => 2
  | error => 3

/-- The level at which a severity is the least that is written. -/
def level (s : Severity) : Number.Double :=
  .ofInt s.rank

/-- The name of a severity. -/
def name : Severity → String
  | debug => "debug"
  | info => "info"
  | warn => "warn"
  | error => "error"

/-- The severity with a name. -/
def ofName? (name : String) : Option Severity :=
  all.find? fun s => s.name = name

/-- A severity as a line shows it. -/
def label : Severity → String
  | debug => "DEBUG"
  | info => "INFO "
  | warn => "WARN "
  | error => "ERROR"

/-- The colour of a severity. -/
def colour : Severity → String
  | debug => "\x1b[90m"
  | info => "\x1b[34m"
  | warn => "\x1b[33m"
  | error => "\x1b[31m"

end Severity

/-! ### Levels -/

/-- Names of a level that no severity is below, so that nothing is held back. -/
def openLevelNames : List String := ["constructor", "__proto__"]

/-- The level that a name in lower case stands for. -/
def levelOfName? (name : String) : Option Number.Double :=
  match Severity.ofName? name with
  | some s => some s.level
  | none => if openLevelNames.contains name then some .nan else none

/-- The level at the start, given the name that the environment states. -/
def initialLevel (stated : Option String) : Number.Double :=
  (stated.bind fun name => levelOfName? (String.ofList (Text.lower name.toList))).getD
    Severity.info.level

/-- The name of a level; that of the usual one where it has none. -/
def levelName (level : Number.Double) : String :=
  ((Severity.all.find? fun s => s.level = level).getD .info).name

/-- Whether lines of a severity are written at a level. -/
def isWritten (level : Number.Double) (s : Severity) : Bool :=
  !s.level.lt level

/-! ### Lines -/

/-- A log line: where it comes from, what it says, and what it says it of. -/
structure Line where
  severity : Severity
  origin : String
  message : String
  context : List (String × Value) := []

/-- A value as a line shows it, where `clock` is the time now. -/
def Value.logged (clock : String) (v : Value) : String :=
  match v with
  | .undefined | .null => "null"
  | .list _ | .record _ | .locale _ | .error .. | .fault .. => (v.json? clock).getD "null"
  | _ => v.shown

/-- Whether a value can be shown in a line: no integer stands in a list or a record. -/
def Value.isLoggable (v : Value) : Bool :=
  match v with
  | .integer _ => true
  | _ => !v.hasInteger

/-- What a line says it of, as it is written; none where a value cannot be shown. -/
def contextText? (clock : String) (context : List (String × Value)) : Option String :=
  if context.all fun m => m.2.isLoggable then
    some (String.intercalate " " (context.map fun m => m.1 ++ "=" ++ m.2.logged clock))
  else none

/-- The colours that a line is written in. -/
structure Colours where
  reset : String := "\x1b[0m"
  dim : String := "\x1b[2m"
  origin : String := "\x1b[36m"
  time : String := "\x1b[90m"

/-- A text in a colour. -/
def Colours.paint (colours : Colours) (colour text : String) : String :=
  colour ++ text ++ colours.reset

/-- A line as it is written: the time, the severity, the origin, the message and the context; none
    where a value cannot be shown. -/
def Line.text? (clock : String) (l : Line) : Option String :=
  (contextText? clock l.context).map fun context =>
    let colours : Colours := {}
    colours.paint colours.time ("[" ++ clock ++ "]") ++ " "
      ++ colours.paint l.severity.colour l.severity.label ++ " "
      ++ colours.paint colours.origin ("[" ++ l.origin ++ "]") ++ " " ++ l.message
      ++ (if context.isEmpty then "" else " " ++ colours.paint colours.dim context)

/-! ### Events -/

/-- What an operation does to the log. -/
inductive LogEvent
  /-- it issues a line -/
  | line (l : Line)
  /-- it changes the level in force -/
  | level (x : Number.Double)

/-- The level in force after events. -/
def levelAfter (level : Number.Double) : List LogEvent → Number.Double
  | [] => level
  | .line _ :: es => levelAfter level es
  | .level x :: es => levelAfter x es

/-- The lines that are written of those that are issued. -/
def written (level : Number.Double) : List LogEvent → List Line
  | [] => []
  | .line l :: es =>
    if isWritten level l.severity then l :: written level es else written level es
  | .level x :: es => written x es

/-- The origin of lines that belong to no part of the library. -/
def appOrigin : String := "APP"

/-- The events of setting the level by name, in any letter case; an unknown name does nothing. -/
def setLevelByName (name : String) : List LogEvent :=
  let lower := String.ofList (Text.lower name.toList)
  match levelOfName? lower with
  | none => []
  | some x =>
    [.level x,
      .line { severity := .info, origin := appOrigin, message := "Log level changed",
              context := [("level", .text lower)] }]

theorem levelAfter_append (level : Number.Double) (es fs : List LogEvent) :
    levelAfter level (es ++ fs) = levelAfter (levelAfter level es) fs := by
  induction es generalizing level with
  | nil => rfl
  | cons e es ih => cases e <;> simp [levelAfter, ih]

end Phrasebook

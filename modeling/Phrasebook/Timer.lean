import Phrasebook.Log

namespace Phrasebook

/-!
# Timers

How long an operation takes, by a clock that is read again and again.

* `Clock`: the readings that a clock will give; the last one repeats.
* `durationText`: a duration as it is shown, `456ms` or `1.23s`.
* `Timer.finish`: the duration at the end, and the line that tells it.
-/

/-- The readings that a clock will give. -/
structure Clock where
  now : Number.Double
  later : List Number.Double := []

/-- One reading. -/
def Clock.read (c : Clock) : Number.Double × Clock :=
  match c.later with
  | [] => (c.now, c)
  | x :: later => (c.now, { now := x, later := later })

/-- The clock that gives these readings, if there are any. -/
def Clock.ofReadings? : List Number.Double → Option Clock
  | [] => none
  | x :: later => some { now := x, later := later }

/-- A duration in milliseconds as it is shown: in seconds from 1000 on. -/
def durationText (ms : Number.Double) : String :=
  if Number.Double.ofInt 1000 ≤ ms then (ms.div 1000).fixed ++ "s" else ms.text ++ "ms"

/-- A running timer: when it was started, what it times, and the origin of its line. -/
structure Timer where
  start : Number.Double
  operation : Option String := none
  origin : Option String := none

namespace Timer

/-- A timer started now. -/
def begin (c : Clock) (operation origin : Option String) : Timer × Clock :=
  let (now, c) := c.read
  ({ start := now, operation := operation, origin := origin }, c)

/-- The time since the start, in milliseconds. -/
def elapsed (t : Timer) (c : Clock) : Number.Double × Clock :=
  let (now, c) := c.read
  (now.sub t.start, c)

/-- The time since the start, as it is shown. -/
def elapsedText (t : Timer) (c : Clock) : String × Clock :=
  let (ms, c) := t.elapsed c
  (durationText ms, c)

/-- The context of the line at the end; its two durations replace entries of their names. -/
def finishContext (context : List (String × Value)) (shown : String) (ms : Number.Double) :
    List (String × Value) :=
  Members.ofList (context ++ [("duration", .text shown), ("durationMs", .number ms)])

/-- The line at the end. -/
def finishLine (operation origin : String) (context : List (String × Value)) : Line where
  severity := .info
  origin := origin
  message := operation ++ " completed"
  context := context

/-- The duration at the end, and the line that tells it if the timer has an operation and an
    origin.  The line's text takes a reading of its own. -/
def finish (t : Timer) (c : Clock) (context : List (String × Value)) :
    Number.Double × List LogEvent × Clock :=
  let (ms, c) := t.elapsed c
  match t.operation, t.origin with
  | some operation, some origin =>
    if operation.isEmpty then (ms, [], c)
    else
      let (shown, c) := t.elapsedText c
      (ms, [.line (finishLine operation origin (finishContext context shown ms))], c)
  | _, _ => (ms, [], c)

end Timer

end Phrasebook

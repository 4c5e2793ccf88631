import Phrasebook.Proofs.Rows
import Phrasebook.Proofs.Session.Logging

namespace Phrasebook

/-!
# The level of the log

The level is set by name or by severity, and lines are written or held back by it.  A name that no
severity has should do nothing, but two names are taken for levels that hold nothing back.

* `LogCall`: a call to the log; `LogCall.perform` is what it writes at a level.
* `severityInForce`: the severity that the last of some calls put in force, found by going back over
  them.
* `setLevelByName_cases`: what a name does.
* `levelAfter_events`, `levelAfterCalls_eq`: the level after one call, and after a run.
* `LogCall.Obeyed`: a run in which the log goes by the severity in force;
  `LogCall.obeyed_of_not_opens`: there is no other without the two names.
* `LogCall.obeyed_iff`: the log obeys just the runs in which neither of the two names is used.
-/

/-! ### Names -/

/-- A name in lower case. -/
def lowered (name : String) : String :=
  String.ofList (Text.lower name.toList)

/-- The severity that has a name, in any letter case. -/
def Severity.named? (name : String) : Option Severity :=
  ofName? (lowered name)

/-- The name is one of those that no severity has and that are taken for a level all the same. -/
def OpensLog (name : String) : Prop :=
  lowered name ∈ openLevelNames

instance (name : String) : Decidable (OpensLog name) :=
  inferInstanceAs (Decidable (_ ∈ _))

/-- The line that tells of a level set by name. -/
def levelChanged (name : String) : Line where
  severity := .info
  origin := appOrigin
  message := "Log level changed"
  context := [("level", .text (lowered name))]

/-- A name that opens the log is that of no severity. -/
theorem Severity.named?_of_opensLog {name : String} (h : OpensLog name) : named? name = none := by
  have hnone : ∀ lower ∈ openLevelNames, ofName? lower = none := by decide
  exact hnone _ h

/-- A name puts the level of its severity, and one that opens the log no number. -/
theorem levelOfName?_lowered (name : String) :
    levelOfName? (lowered name)
      = if OpensLog name then some .nan else (Severity.named? name).map Severity.level := by
  have hcontains : openLevelNames.contains (lowered name) = decide (OpensLog name) := by
    rw [List.contains_eq_mem]
    rfl
  unfold levelOfName?
  rw [hcontains]
  by_cases h : OpensLog name
  · have hnone : Severity.ofName? (lowered name) = none := Severity.named?_of_opensLog h
    simp [h, hnone]
  · rw [if_neg h, decide_eq_false h, Severity.named?]
    cases Severity.ofName? (lowered name) <;> rfl

/-- A name that a severity has sets the level to that of the severity.  One of the two others that
    are taken for levels sets one that no number is.  Any other name does nothing. -/
theorem setLevelByName_cases (name : String) :
    (OpensLog name ∧ setLevelByName name = [.level .nan, .line (levelChanged name)]) ∨
    (¬ OpensLog name ∧ ∃ s, Severity.named? name = some s ∧
      setLevelByName name = [.level s.level, .line (levelChanged name)]) ∨
    (¬ OpensLog name ∧ Severity.named? name = none ∧ setLevelByName name = []) := by
  have hevents : setLevelByName name
      = ((levelOfName? (lowered name)).map fun x => [.level x, .line (levelChanged name)]).getD
        [] := by
    have hlower : String.ofList (Text.lower name.toList) = lowered name := rfl
    rw [setLevelByName, hlower]
    cases levelOfName? (lowered name) <;> rfl
  rw [hevents, levelOfName?_lowered]
  by_cases h : OpensLog name
  · exact Or.inl ⟨h, by rw [if_pos h, Option.map_some, Option.getD_some]⟩
  · rw [if_neg h]
    cases hs : Severity.named? name with
    | none => exact Or.inr (Or.inr ⟨h, rfl, rfl⟩)
    | some s => exact Or.inr (Or.inl ⟨h, s, rfl, rfl⟩)

/-! ### Levels -/

/-- The level of a severity has its name. -/
theorem levelName_level (s : Severity) : levelName s.level = s.name := by
  cases s <;> decide +kernel

/-- Where the level is no number, no line is held back. -/
theorem written_nan (l : Line) : written .nan [.line l] = [l] := by
  have hwritten : isWritten .nan l.severity = true := by
    cases l.severity <;> decide +kernel
  rw [written, written, if_pos hwritten]

/-- The severity at the start, given the name that the environment states. -/
def severityAtStart (stated : Option String) : Severity :=
  (stated.bind Severity.named?).getD .info

/-- The level at the start is that of the severity stated, or the usual one. -/
theorem initialLevel_eq {stated : Option String} (h : ∀ name ∈ stated, ¬ OpensLog name) :
    initialLevel stated = (severityAtStart stated).level := by
  have hnames : (stated.bind fun name => levelOfName? (lowered name))
      = (stated.bind Severity.named?).map Severity.level := by
    cases stated with
    | none => rfl
    | some name =>
      rw [Option.bind_some, Option.bind_some, levelOfName?_lowered, if_neg (h name rfl)]
  show (stated.bind fun name => levelOfName? (lowered name)).getD _ = _
  rw [hnames, severityAtStart]
  cases stated.bind Severity.named? with
  | none => rw [Option.map_none, Option.getD_none, Option.getD_none]
  | some s => rw [Option.map_some, Option.getD_some, Option.getD_some]

/-- With a name that opens the log, the level at the start is no number. -/
theorem initialLevel_of_opensLog {name : String} (h : OpensLog name) :
    initialLevel (some name) = .nan := by
  show ((some name).bind fun name => levelOfName? (lowered name)).getD _ = _
  rw [Option.bind_some, levelOfName?_lowered, if_pos h, Option.getD_some]

/-! ### Calls -/

/-- A call to the log. -/
inductive LogCall
  /-- the level is set by name -/
  | setNamed (name : String)
  /-- the level is set to that of a severity -/
  | set (s : Severity)
  /-- a line is issued -/
  | issue (l : Line)

namespace LogCall

/-- What a call does to the log. -/
def events : LogCall → List LogEvent
  | setNamed name => setLevelByName name
  | set s => [.level s.level]
  | issue l => [.line l]

/-- Lines as they are written at a time; a line that cannot be written ends the call. -/
def spell (clock : String) (lines : List Line) : Except Failure (List String) :=
  lines.mapM fun l => (l.text? clock).elim (.error .unwritable) .ok

/-- What a call writes at a level. -/
def perform (clock : String) (level : Number.Double) (call : LogCall) :
    Except Failure (List String) :=
  spell clock (written level call.events)

/-- The level in force after calls, given the name that the environment states. -/
def levelAfterCalls (stated : Option String) (calls : List LogCall) : Number.Double :=
  levelAfter (initialLevel stated) (calls.flatMap events)

/-! ### The severity in force -/

/-- The severity that a call puts in force, if it names one. -/
def puts? : LogCall → Option Severity
  | setNamed name => Severity.named? name
  | set s => some s
  | issue _ => none

/-- The severity that the last call to name one put in force, or the one before all calls. -/
def severityAfter (s : Severity) (calls : List LogCall) : Severity :=
  (calls.reverse.findSome? puts?).getD s

/-- The severity in force after calls, given the name that the environment states. -/
def severityInForce (stated : Option String) (calls : List LogCall) : Severity :=
  severityAfter (severityAtStart stated) calls

/-- The lines that a call writes while a severity is in force: a line that is issued, unless it is
    below that severity, and the line that tells of a level set by name, unless it is below the new
    one. -/
def lines (s : Severity) : LogCall → List Line
  | setNamed name =>
    match Severity.named? name with
    | some new => if new.rank ≤ Severity.info.rank then [levelChanged name] else []
    | none => []
  | set _ => []
  | issue l => if s.rank ≤ l.severity.rank then [l] else []

/-- The call sets the level by one of the two names that are taken for levels. -/
def Opens (call : LogCall) : Prop :=
  ∃ name, call = setNamed name ∧ OpensLog name

@[simp] theorem severityAfter_nil (s : Severity) : severityAfter s [] = s := rfl

theorem severityAfter_cons (s : Severity) (call : LogCall) (calls : List LogCall) :
    severityAfter s (call :: calls) = severityAfter (call.puts?.getD s) calls :=
  getD_findSome?_reverse_cons puts? s call calls

/-- The level after one call. -/
theorem levelAfter_events {call : LogCall} (h : ¬ call.Opens) (s : Severity) :
    levelAfter s.level call.events = (call.puts?.getD s).level := by
  cases call with
  | setNamed name =>
    rcases setLevelByName_cases name with
      ⟨hopens, -⟩ | ⟨-, new, hnew, hevents⟩ | ⟨-, hnone, hevents⟩
    · exact absurd ⟨name, rfl, hopens⟩ h
    · rw [events, hevents, puts?, hnew, levelAfter, levelAfter, levelAfter, Option.getD_some]
    · rw [events, hevents, puts?, hnone, levelAfter, Option.getD_none]
  | set new => rw [events, puts?, levelAfter, levelAfter, Option.getD_some]
  | issue l => rw [events, puts?, levelAfter, levelAfter, Option.getD_none]

/-- The level after calls is that of the severity in force. -/
theorem levelAfter_flatMap_events {calls : List LogCall} (h : ∀ call ∈ calls, ¬ call.Opens)
    (s : Severity) :
    levelAfter s.level (calls.flatMap events) = (severityAfter s calls).level := by
  -- each call hands a severity on to the calls after it
  induction calls generalizing s with
  | nil => rw [List.flatMap_nil, levelAfter, severityAfter_nil]
  | cons call calls ih =>
    obtain ⟨hcall, hcalls⟩ := List.forall_mem_cons.1 h
    rw [List.flatMap_cons, levelAfter_append, levelAfter_events hcall, ih hcalls,
      severityAfter_cons]

/-- Unless some name opens the log, the level is that of the severity in force. -/
theorem levelAfterCalls_eq {stated : Option String} {calls : List LogCall}
    (hstated : ∀ name ∈ stated, ¬ OpensLog name) (h : ∀ call ∈ calls, ¬ call.Opens) :
    levelAfterCalls stated calls = (severityInForce stated calls).level := by
  rw [levelAfterCalls, initialLevel_eq hstated, levelAfter_flatMap_events h, severityInForce]

/-- What one call writes while a severity is in force. -/
theorem written_events {call : LogCall} (h : ¬ call.Opens) (s : Severity) :
    written s.level call.events = call.lines s := by
  have hline : ∀ (s : Severity) (l : Line),
      written s.level [.line l] = if s.rank ≤ l.severity.rank then [l] else [] := by
    intro s l
    rw [written, written]
    exact if_congr (isWritten_level_iff s l.severity) rfl rfl
  cases call with
  | setNamed name =>
    rcases setLevelByName_cases name with
      ⟨hopens, -⟩ | ⟨-, new, hnew, hevents⟩ | ⟨-, hnone, hevents⟩
    · exact absurd ⟨name, rfl, hopens⟩ h
    · rw [events, hevents, written, hline, lines, hnew]
      rfl
    · rw [events, hevents, lines, hnone, written]
  | set new => rw [events, lines, written, written]
  | issue l => rw [events, lines, hline]

/-! ### Runs that the log obeys -/

/-- At every place of a run the log goes by the severity that the last call to name one put in
    force: it has that name for the level, it writes every line that might be issued next unless
    that is below the severity, and the next call writes what it should.  A call with a name that no
    severity has writes nothing and leaves the level as it is. -/
structure Obeyed (clock : String) (stated : Option String) (calls : List LogCall) : Prop where
  name : ∀ before, before <+: calls →
    levelName (levelAfterCalls stated before) = (severityInForce stated before).name
  line : ∀ before, before <+: calls → ∀ l : Line,
    (issue l).perform clock (levelAfterCalls stated before)
      = if (severityInForce stated before).rank ≤ l.severity.rank then spell clock [l] else .ok []
  next : ∀ before call, before ++ [call] <+: calls →
    call.perform clock (levelAfterCalls stated before)
      = spell clock (call.lines (severityInForce stated before))
  ignored : ∀ before name, before ++ [setNamed name] <+: calls → Severity.named? name = none →
    (setNamed name).perform clock (levelAfterCalls stated before) = .ok [] ∧
      levelAfterCalls stated (before ++ [setNamed name]) = levelAfterCalls stated before

/-- A name that no severity has leaves the severity in force as it is. -/
theorem severityInForce_append_unknown (stated : Option String) (before : List LogCall)
    {name : String} (h : Severity.named? name = none) :
    severityInForce stated (before ++ [setNamed name]) = severityInForce stated before := by
  unfold severityInForce severityAfter
  rw [List.reverse_append, List.findSome?_append]
  simp [puts?, h]

/-- Without the two names that are taken for levels, the log obeys. -/
theorem obeyed_of_not_opens (clock : String) {stated : Option String} {calls : List LogCall}
    (hstated : ∀ name ∈ stated, ¬ OpensLog name) (h : ∀ call ∈ calls, ¬ call.Opens) :
    Obeyed clock stated calls := by
  have hlevel : ∀ before, before <+: calls →
      levelAfterCalls stated before = (severityInForce stated before).level :=
    fun before hbefore =>
      levelAfterCalls_eq hstated fun call hcall => h call (hbefore.subset hcall)
  have hnext : ∀ before call, before ++ [call] <+: calls →
      call.perform clock (levelAfterCalls stated before)
        = spell clock (call.lines (severityInForce stated before)) := by
    intro before call hplace
    have hcall : ¬ call.Opens := h call (hplace.subset (by simp))
    rw [hlevel before ((List.prefix_append before [call]).trans hplace), perform,
      written_events hcall]
  refine ⟨fun before hbefore => ?_, fun before hbefore l => ?_, hnext,
    fun before name hplace hname => ⟨?_, ?_⟩⟩
  · rw [hlevel before hbefore, levelName_level]
  · have hissue : ¬ (issue l).Opens := by
      rintro ⟨name, heq, -⟩
      exact absurd heq (by simp)
    rw [hlevel before hbefore, perform, written_events hissue, lines]
    split <;> rfl
  · rw [hnext before _ hplace, lines, hname]
    rfl
  · rw [hlevel _ hplace, hlevel _ ((List.prefix_append before _).trans hplace),
      severityInForce_append_unknown stated before hname]

/-- A line that can be written makes a text. -/
theorem spell_ne_nil (clock : String) {l : Line} (h : l.isShowable = true) :
    spell clock [l] ≠ .ok [] := by
  rw [← l.isSome_text? clock] at h
  obtain ⟨t, ht⟩ := Option.isSome_iff_exists.1 h
  have hspell : spell clock [l] = .ok [t] := by
    simp [spell, ht, pure, Except.pure, bind, Except.bind]
  rw [hspell]
  simp

/-- A log that is opened from the start does not obey. -/
theorem Obeyed.not_opensLog_stated {clock name : String} {calls : List LogCall}
    (h : Obeyed clock (some name) calls) : ¬ OpensLog name := by
  intro hopens
  -- at the start a debug line would be written
  let l : Line := { severity := .debug, origin := appOrigin, message := "" }
  have hstart : severityInForce (some name) [] = .info := by
    show (Severity.named? name).getD .info = .info
    rw [Severity.named?_of_opensLog hopens]
    rfl
  have hlevel : levelAfterCalls (some name) [] = .nan := initialLevel_of_opensLog hopens
  have hline := h.line [] List.nil_prefix l
  rw [hstart, hlevel, perform, events, written_nan, if_neg (by decide)] at hline
  exact spell_ne_nil clock rfl hline

/-- Nor does one that is opened by a call, which writes a line of its own. -/
theorem Obeyed.not_opensLog_called {clock : String} {stated : Option String}
    {calls : List LogCall} (h : Obeyed clock stated calls) {name : String}
    (hmem : setNamed name ∈ calls) : ¬ OpensLog name := by
  intro hopens
  obtain ⟨before, after, rfl⟩ := List.append_of_mem hmem
  have hplace : before ++ [setNamed name] <+: before ++ setNamed name :: after :=
    ⟨after, by simp⟩
  have hcall := (h.ignored before name hplace (Severity.named?_of_opensLog hopens)).1
  rcases setLevelByName_cases name with ⟨-, hevents⟩ | ⟨hnot, -⟩ | ⟨hnot, -⟩
  · rw [perform, events, hevents, written, written_nan] at hcall
    exact spell_ne_nil clock rfl hcall
  · exact absurd hopens hnot
  · exact absurd hopens hnot

/-- The log obeys a run if and only if neither the environment nor a call of the run uses one of the
    two names that are taken for levels and that no severity has. -/
theorem obeyed_iff (clock : String) (stated : Option String) (calls : List LogCall) :
    Obeyed clock stated calls ↔
      (∀ name ∈ stated, ¬ OpensLog name) ∧ ∀ name, setNamed name ∈ calls → ¬ OpensLog name := by
  constructor
  · intro h
    refine ⟨?_, fun name hmem => h.not_opensLog_called hmem⟩
    rintro name hname
    obtain rfl : stated = some name := hname
    exact h.not_opensLog_stated
  · rintro ⟨hstated, hcalls⟩
    refine obeyed_of_not_opens clock hstated ?_
    rintro call hmem ⟨name, rfl, hname⟩
    exact hcalls name hmem hname

/-- A name that no severity has, after which the log is not at the level that was set before. -/
theorem not_obeyed :
    Severity.named? "constructor" = none ∧
      ¬ ∀ clock stated calls, Obeyed clock stated calls := by
  refine ⟨by decide +kernel, fun h => ?_⟩
  have hname := (h "" none [.set .error, .setNamed "constructor"]).name _ List.prefix_rfl
  revert hname
  decide +kernel

end LogCall

end Phrasebook

import Phrasebook.Proofs.Members
import Phrasebook.Proofs.Number.Integers
import Phrasebook.Proofs.Session.Basic

namespace Phrasebook

/-!
# The log observes

Whether a line is written depends on the level in force; only then is its context made into text,
and a context that cannot be written would end the call that issued it.  No call issues such a
line, so that the level in force makes no difference to what calls answer and to what is there after
them.  Of two runs that differ in the level at the start, the stricter one writes the lines of the
other but for those below the level in force in it.

* `Issue`, `issues`: the lines that are issued, each with the level in force.
* `Showable`, `Session.showable_perform`: lines that can be written, and that every call issues only
  such lines.
* `Session.record`, `Session.record_eq`, `Session.written_record`: a run with its log, and that it
  goes as without one.
* `AsLenient`, `asLenient_issues`: the same events under two levels.
* `Session.record_levels`: two runs under different levels.
-/

/-! ### Lines that are issued -/

/-- A line that is issued, and the level in force then. -/
structure Issue where
  line : Line
  level : Number.Double

/-- Whether the line is written. -/
def Issue.isWritten (i : Issue) : Bool :=
  Phrasebook.isWritten i.level i.line.severity

/-- The lines that events issue. -/
def issues (level : Number.Double) : List LogEvent → List Issue
  | [] => []
  | .line l :: es => { line := l, level := level } :: issues level es
  | .level x :: es => issues x es

/-- Of lines that are issued, those that are written. -/
def linesWritten (is : List Issue) : List Line :=
  (is.filter Issue.isWritten).map Issue.line

/-- The lines of two rows of events, the second one at the level after the first. -/
theorem issues_append (level : Number.Double) (es fs : List LogEvent) :
    issues level (es ++ fs) = issues level es ++ issues (levelAfter level es) fs := by
  induction es generalizing level with
  | nil => rfl
  | cons e es ih => cases e <;> simp [issues, levelAfter, ih]

/-- What is written of the lines that events issue. -/
theorem linesWritten_issues (level : Number.Double) (es : List LogEvent) :
    linesWritten (issues level es) = written level es := by
  induction es generalizing level with
  | nil => rfl
  | cons e es ih =>
    cases e with
    | level x => exact ih x
    | line l =>
      rw [issues, linesWritten, List.filter_cons, written, ← ih level]
      show List.map _ (if isWritten level l.severity = true then _ else _) = _
      split <;> rfl

/-! ### Lines that can be written -/

/-- Whether a line can be written: no value of its context holds an integer where it may not. -/
def Line.isShowable (l : Line) : Bool :=
  l.context.all fun m => m.2.isLoggable

/-- A line has a text just where it can be shown. -/
theorem Line.isSome_text? (clock : String) (l : Line) : (l.text? clock).isSome = l.isShowable := by
  unfold text? contextText? isShowable
  rw [Option.isSome_map]
  split
  · next h => rw [h]; rfl
  · next h => rw [Bool.not_eq_true] at h; rw [h]; rfl

/-- Every line of some events can be written. -/
def Showable (es : List LogEvent) : Prop :=
  ∀ l, LogEvent.line l ∈ es → l.isShowable = true

@[simp] theorem showable_nil : Showable [] :=
  fun _ h => absurd h List.not_mem_nil

/-- Events with a line in front can be shown if the line can. -/
@[simp] theorem showable_line {l : Line} {es : List LogEvent} :
    Showable (.line l :: es) ↔ l.isShowable = true ∧ Showable es := by
  simp only [Showable, List.mem_cons, LogEvent.line.injEq, forall_eq_or_imp]

/-- A change of the level can always be shown. -/
@[simp] theorem showable_level {x : Number.Double} {es : List LogEvent} :
    Showable (.level x :: es) ↔ Showable es := by
  simp only [Showable, List.mem_cons, reduceCtorEq, false_or]

/-- Two rows of events can be shown if each can. -/
@[simp] theorem showable_append {es fs : List LogEvent} :
    Showable (es ++ fs) ↔ Showable es ∧ Showable fs := by
  simp only [Showable, List.mem_append, or_imp, forall_and]

/-- Each line that is issued can be shown. -/
theorem isShowable_of_mem_issues {level : Number.Double} {es : List LogEvent} (h : Showable es)
    {i : Issue} (hi : i ∈ issues level es) : i.line.isShowable = true := by
  induction es generalizing level with
  | nil => exact absurd hi List.not_mem_nil
  | cons e es ih =>
    cases e with
    | level x => exact ih (showable_level.1 h) hi
    | line l =>
      obtain ⟨hline, hrest⟩ := showable_line.1 h
      rcases List.mem_cons.1 hi with rfl | hi
      · exact hline
      · exact ih hrest hi

namespace Value

@[simp] theorem isLoggable_null : null.isLoggable = true := rfl

@[simp] theorem isLoggable_text (s : String) : (text s).isLoggable = true := rfl

@[simp] theorem isLoggable_number (x : Number.Double) : (number x).isLoggable = true := rfl

/-- A list of texts. -/
@[simp] theorem isLoggable_texts {α : Type} (f : α → String) (as : List α) :
    (list (as.map fun a => text (f a))).isLoggable = true := by
  have hnone : anyInteger (as.map fun a => text (f a)) = false := by
    induction as with
    | nil => rfl
    | cons a as ih => exact ih
  show (!anyInteger _) = true
  rw [hnone]
  rfl

end Value

/-- Setting the level by a name can be shown. -/
theorem showable_setLevelByName (name : String) : Showable (setLevelByName name) := by
  unfold setLevelByName
  dsimp only
  split
  · exact showable_nil
  · simp [Line.isShowable]

/-! ### Loading -/

/-- The line about a file can be shown. -/
theorem MessageFile.isShowable_line (file : MessageFile) (messages : Nat) :
    (file.line messages).isShowable = true := by
  simp [line, Line.isShowable]

/-- The lines about files put into a bag can be shown. -/
theorem Bag.showable_insertFiles (b : Bag) (files : List LoadedFile) :
    Showable (b.insertFiles files).events := by
  induction files generalizing b with
  | nil => exact showable_nil
  | cons f fs ih =>
    unfold insertFiles
    cases readMessages f.content f.file.path with
    | error fault => exact showable_nil
    | ok messages => exact showable_line.2 ⟨f.file.isShowable_line messages.length, ih _⟩

/-- A record has only entries that were put in. -/
theorem Members.mem_of_mem_ofList {α : Type u} {es : List (String × α)} {e : String × α}
    (h : e ∈ Members.ofList es) : e ∈ es := by
  have hentry : e ∈ (Dict.ofList es).entries := (arrange_perm _).mem_iff.1 h
  have hget : (Dict.ofList es).get? e.1 = some e.2 := (Dict.get?_eq_some_iff _ _ _).2 hentry
  rw [Dict.ofList, Dict.get?_insertList, Dict.get?_empty, Option.or_none] at hget
  exact List.mem_reverse.1 (mem_of_lookupEntry hget)

/-- The line of a timer, where its context can be written. -/
theorem Timer.isShowable_finishLine (operation origin shown : String) (ms : Number.Double)
    {context : List (String × Value)} (h : ∀ m ∈ context, m.2.isLoggable = true) :
    (finishLine operation origin (finishContext context shown ms)).isShowable = true := by
  rw [finishLine, Line.isShowable, List.all_eq_true]
  intro m hm
  rcases List.mem_append.1 (Members.mem_of_mem_ofList hm) with hm | hm
  · exact h m hm
  · simp only [List.mem_cons, List.not_mem_nil, or_false] at hm
    rcases hm with rfl | rfl <;> rfl

/-- The lines at the end of loading can be shown. -/
theorem showable_loadEnd (clock : Clock) (dir : String) (files : Nat) (b : Bag) :
    Showable (loadEnd clock dir files b) := by
  refine showable_line.2 ⟨Timer.isShowable_finishLine _ _ _ _ fun m hm => ?_, showable_nil⟩
  simp only [List.mem_cons, List.not_mem_nil, or_false] at hm
  rcases hm with rfl | rfl | rfl <;> rfl

/-- All lines of loading can be shown. -/
theorem showable_loadBagBy (load : List MessageFile → Except LoadFault (List LoadedFile))
    (fs : Files) (clock : Clock) (dir : String) (extensions : List String) :
    Showable (loadBagBy load fs clock dir extensions).events := by
  unfold loadBagBy
  cases (messageFiles fs dir extensions).bind load with
  | error f => exact showable_nil
  | ok files =>
    have hinsert := Bag.empty.showable_insertFiles files
    dsimp only
    split
    · exact hinsert
    · exact showable_append.2 ⟨hinsert, showable_loadEnd clock dir files.length _⟩

/-! ### Services and requests -/

namespace Service

variable (sv : Service)

/-- The lines about a bag that is installed can be shown. -/
theorem showable_installEvents (b : Bag) : Showable (sv.installEvents b) := by
  have hfallback : (tagValue sv.fallback).isLoggable = true := by
    cases sv.fallback <;> rfl
  unfold installEvents
  split <;> simp [Line.isShowable, hfallback]

/-- All lines of an installation can be shown. -/
theorem showable_install (store : Store) (b : Ref HeldBag) :
    Showable (sv.install store b).events := by
  unfold install
  cases Formatter.ofCapacity sv.cacheSize with
  | error f => exact showable_nil
  | ok formatter => exact sv.showable_installEvents _

/-- All lines of a load by a service can be shown. -/
theorem showable_load (fs : Files) (clock : Clock) (ended : List Nat → List Nat) :
    Showable (sv.load fs clock ended).events := by
  unfold load
  split
  · exact showable_nil
  · exact showable_nil
  · exact showable_loadBagBy _ fs clock _ _

/-- All lines at the end of a load can be shown. -/
theorem showable_finish (store : Store) (loaded : Except Failure Bag) :
    Showable (sv.finish store loaded).events := by
  cases loaded with
  | error f => exact showable_nil
  | ok b =>
    unfold finish
    dsimp only
    split <;> exact showable_install _ _ _

/-- All lines of a call for messages can be shown. -/
theorem showable_prepare (store : Store) (fs : Files) (clock : Clock)
    (ended : List Nat → List Nat) : Showable (sv.prepare store fs clock ended).events := by
  unfold prepare
  split
  · exact showable_nil
  · exact showable_append.2 ⟨showable_load _ fs clock ended, showable_finish _ store _⟩

/-- All lines of setting a service up can be shown. -/
theorem showable_create (env : Environment) (store : Store) (fs : Files) (clock : Clock)
    (ended : List Nat → List Nat) : Showable (create env store fs clock ended).events := by
  unfold create
  cases Settings.ofEnvironment env with
  | error f => exact showable_nil
  | ok settings =>
    have hlevel := showable_setLevelByName settings.level.name
    dsimp only
    cases ofOptions settings.toOptions with
    | error f => exact hlevel
    | ok sv => exact showable_append.2 ⟨hlevel, sv.showable_prepare store fs clock ended⟩

/-- The lines about a negotiation can be shown. -/
theorem showable_negotiate (header : Option String) : Showable (sv.negotiate header).events := by
  unfold negotiate
  split
  · exact showable_nil
  · exact showable_nil
  · split <;> simp [Line.isShowable]

end Service

/-- The lines about the headers of a request can be shown. -/
theorem Headers.showable_detect (h : Headers) (sv : Service) : Showable (h.detect sv).events := by
  unfold detect
  split
  · exact sv.showable_negotiate h.languages
  · split
    · exact showable_nil
    · exact showable_line.2 ⟨rfl, sv.showable_negotiate h.languages⟩

/-- All lines of handling a request can be shown. -/
theorem Request.showable_handle (q : Request) (sv : Service) (h : Headers) :
    Showable (q.handle sv h).events := by
  unfold handle accept
  cases sv.resolverRef with
  | error f => exact showable_nil
  | ok r => exact h.showable_detect sv

/-! ### Two levels -/

/-- A line that one run issues in the place of another, where it is held back wherever the other one
    is not written. -/
structure AsLenient (lenient strict : Issue) : Prop where
  line : strict.line = lenient.line
  isWritten : strict.isWritten = true → lenient.isWritten = true

/-- Events issue the same lines under both of two levels.  A change of the level puts the same one
    in force. -/
theorem asLenient_issues {lenient strict : Number.Double}
    (h : ∀ s, isWritten strict s = true → isWritten lenient s = true) (es : List LogEvent) :
    List.Forall₂ AsLenient (issues lenient es) (issues strict es) := by
  -- the hypothesis on the two levels is the invariant, so both are general
  induction es generalizing lenient strict with
  | nil => exact .nil
  | cons e es ih =>
    cases e with
    | line l => exact .cons ⟨rfl, h l.severity⟩ (ih h)
    | level x => exact ih fun _ hs => hs

section

variable {is js : List Issue} (h : List.Forall₂ AsLenient is js)

include h

/-- Issues at corresponding levels have the same lines. -/
theorem map_line_eq : js.map Issue.line = is.map Issue.line := by
  induction h with
  | nil => rfl
  | cons hhead _ ih => rw [List.map_cons, List.map_cons, hhead.line, ih]

/-- What the lenient run writes. -/
theorem linesWritten_lenient :
    linesWritten is = ((is.zip js).filter fun i => i.1.isWritten).map fun i => i.1.line := by
  induction h with
  | nil => rfl
  | @cons i j is js hhead _ ih =>
    rw [linesWritten, List.filter_cons, List.zip_cons_cons, List.filter_cons]
    dsimp only
    split
    · exact congrArg (i.line :: ·) ih
    · exact ih

/-- What the strict run writes: what the lenient one does, but for the lines that are held back in
    it. -/
theorem linesWritten_strict :
    linesWritten js = (((is.zip js).filter fun i => i.1.isWritten).filter
      fun i => i.2.isWritten).map fun i => i.1.line := by
  rw [List.filter_filter]
  induction h with
  | nil => rfl
  | @cons i j is js hhead _ ih =>
    rw [linesWritten, List.filter_cons, List.zip_cons_cons, List.filter_cons]
    dsimp only
    by_cases hj : j.isWritten = true
    · rw [if_pos hj, hj, hhead.isWritten hj, if_pos (Bool.and_self true), List.map_cons,
        List.map_cons, hhead.line]
      exact congrArg (i.line :: ·) ih
    · -- whether the lenient run writes the line does not count
      rw [if_neg hj, Bool.eq_false_of_not_eq_true hj, Bool.false_and, if_neg Bool.false_ne_true]
      exact ih

end

/-- A severity is written at the level of another one unless it is below that. -/
theorem isWritten_level_iff (s t : Severity) : isWritten s.level t = true ↔ s.rank ≤ t.rank := by
  have hrank : ∀ s : Severity, s.level.toInt? = some (s.rank : Int) := by
    intro s
    apply Number.Double.toInt?_ofInt
    cases s <;> decide
  rw [isWritten, Bool.not_eq_true', ← Bool.not_eq_true,
    Number.Double.lt_iff_of_toInt? (hrank t) (hrank s)]
  omega

/-! ### Runs with their log -/

/-- The events before the first line that is to be written and cannot be, if there is such a
    line. -/
def beforeSpoilt? (level : Number.Double) : List LogEvent → Option (List LogEvent)
  | [] => none
  | .line l :: es =>
    if isWritten level l.severity && !l.isShowable then some []
    else (beforeSpoilt? level es).map (.line l :: ·)
  | .level x :: es => (beforeSpoilt? x es).map (.level x :: ·)

/-- Nothing is spoilt where every line can be shown. -/
theorem beforeSpoilt?_of_showable (level : Number.Double) {es : List LogEvent} (h : Showable es) :
    beforeSpoilt? level es = none := by
  induction es generalizing level with
  | nil => rfl
  | cons e es ih =>
    cases e with
    | line l =>
      obtain ⟨hline, hrest⟩ := showable_line.1 h
      rw [beforeSpoilt?, hline, Bool.not_true, Bool.and_false, if_neg Bool.false_ne_true,
        ih level hrest, Option.map_none]
    | level x => rw [beforeSpoilt?, ih x (showable_level.1 h), Option.map_none]

namespace Session

/-- Every call issues only lines that can be written. -/
theorem showable_perform (p : Session) (a : Act) : Showable (p.perform a).events := by
  cases a with
  | question | use | arrive => exact showable_nil
  | load o fs clock dir extensions =>
    -- both ways of loading write the same kinds of lines
    have hload : Showable (o.loadBag fs clock dir extensions).events := by
      cases o <;> exact showable_loadBagBy _ fs clock dir extensions
    simp only [perform]
    split <;> exact hload
  | setLevel name => exact showable_setLevelByName name
  | setUp o =>
    simp only [perform]
    split <;> exact showable_nil
  | create env fs clock ended =>
    have hcreate := Service.showable_create env p.store fs clock ended
    simp only [perform]
    split <;> exact hcreate
  | install ref b =>
    simp only [perform, withService]
    cases p.services.get? ref with
    | none => exact showable_nil
    | some sv => exact sv.showable_install p.store b
  | begin ref | translate ref =>
    simp only [perform, withService]
    cases p.services.get? ref <;> exact showable_nil
  | finish ref fs clock ended =>
    simp only [perform, withService]
    cases p.services.get? ref with
    | none => exact showable_nil
    | some sv =>
      simp only [Option.elim_some]
      split
      -- the lines of the load come first, then those of its end
      · exact showable_append.2 ⟨sv.showable_load fs clock ended, sv.showable_finish p.store _⟩
      · exact showable_nil
  | negotiate ref header =>
    simp only [perform, withService]
    cases p.services.get? ref with
    | none => exact showable_nil
    | some sv => exact sv.showable_negotiate header
  | detect ref h =>
    simp only [perform, withService]
    cases p.services.get? ref with
    | none => exact showable_nil
    | some sv => exact h.showable_detect sv
  | handle q ref h =>
    simp only [perform, withRequest, withService]
    cases p.requests.get? q with
    | none => exact showable_nil
    | some request =>
      cases p.services.get? ref with
      | none => exact showable_nil
      | some sv => exact request.showable_handle sv h
  | ask q domain id c =>
    simp only [perform, withRequest]
    cases p.requests.get? q with
    | none => exact showable_nil
    | some request =>
      simp only [Option.elim_some]
      split <;> exact showable_nil

/-- What calls answer one after another. -/
def answers (p : Session) : List Act → List (Except Failure Answer)
  | [] => []
  | a :: acts => (p.perform a).answer :: answers (p.after a) acts

/-- What calls do to the log one after another. -/
def events (p : Session) : List Act → List LogEvent
  | [] => []
  | a :: acts => (p.perform a).events ++ events (p.after a) acts

/-- A run with its log. -/
structure Record where
  answers : List (Except Failure Answer)
  session : Session
  issues : List Issue

/-- The lines that are written in a run. -/
def Record.written (r : Record) : List Line :=
  linesWritten r.issues

section

/- What a call leaves behind that ends at a line. -/
variable (spoilt : Session → Act → Session)

/-- One call with its log.  A line that is to be written and cannot be ends the call with a
    failure. -/
def act (level : Number.Double) (p : Session) (a : Act) : Performed :=
  match beforeSpoilt? level (p.perform a).events with
  | none => p.perform a
  | some es => { answer := .error .unwritable, session := spoilt p a, events := es }

/-- A run with its log, given the level in force at the start. -/
def record (level : Number.Double) (p : Session) : List Act → Record
  | [] => { answers := [], session := p, issues := [] }
  | a :: acts =>
    let r := p.act spoilt level a
    let rest := record (levelAfter level r.events) r.session acts
    { answers := r.answer :: rest.answers
      session := rest.session
      issues := Phrasebook.issues level r.events ++ rest.issues }

/-- A call with its log goes as without one, whatever the level in force. -/
theorem act_eq (level : Number.Double) (p : Session) (a : Act) :
    p.act spoilt level a = p.perform a := by
  rw [act, beforeSpoilt?_of_showable level (p.showable_perform a)]

/-- A run with its log goes as without one, whatever the level at the start. -/
theorem record_eq (level : Number.Double) (p : Session) (acts : List Act) :
    p.record spoilt level acts =
      { answers := p.answers acts
        session := p.run acts
        issues := Phrasebook.issues level (p.events acts) } := by
  induction acts generalizing level p with
  | nil => rfl
  | cons a acts ih =>
    -- the level after the call is the one that the rest of the run starts with
    rw [record, act_eq, ih, events, issues_append]
    rfl

/-- What is written in a run is what is written of the events of its calls. -/
theorem written_record (level : Number.Double) (p : Session) (acts : List Act) :
    (p.record spoilt level acts).written = Phrasebook.written level (p.events acts) := by
  rw [record_eq, Record.written, linesWritten_issues]

/-- A run issues only lines that can be written. -/
theorem showable_events (p : Session) (acts : List Act) : Showable (p.events acts) := by
  induction acts generalizing p with
  | nil => exact showable_nil
  | cons a acts ih => exact showable_append.2 ⟨p.showable_perform a, ih (p.after a)⟩

/-- Two runs of the same calls that differ in the level at the start.  Each call answers the same in
    both, and the same is there after them.  They issue the same lines.  Each line that the lenient
    run writes is issued by the strict one too, with its own level in force; the strict run writes
    those of them that are not below that level, and every line that is written has a text. -/
theorem record_levels (p : Session) (acts : List Act) {lenient strict : Severity}
    (h : lenient.rank ≤ strict.rank) :
    let r := p.record spoilt lenient.level acts
    let r' := p.record spoilt strict.level acts
    let both := (r.issues.zip r'.issues).filter fun i => i.1.isWritten
    r'.answers = r.answers ∧ r'.session = r.session ∧
      r'.issues.map Issue.line = r.issues.map Issue.line ∧
      r.written = both.map (fun i => i.1.line) ∧
      r'.written = (both.filter fun i => i.2.isWritten).map (fun i => i.1.line) ∧
      ∀ l ∈ r.written, ∀ clock, (l.text? clock).isSome = true := by
  intro r r' both
  have hr : r = _ := p.record_eq spoilt lenient.level acts
  have hr' : r' = _ := p.record_eq spoilt strict.level acts
  -- what the strict level lets through, the lenient one does too
  have hlevels : ∀ s, isWritten strict.level s = true → isWritten lenient.level s = true := by
    intro s hs
    rw [isWritten_level_iff] at hs ⊢
    omega
  -- line by line, since the events of a session do not depend on the level
  have hissues : List.Forall₂ AsLenient r.issues r'.issues := by
    rw [hr, hr']
    exact asLenient_issues hlevels (p.events acts)
  refine ⟨by rw [hr, hr'], by rw [hr, hr'], map_line_eq hissues, linesWritten_lenient hissues,
    linesWritten_strict hissues, ?_⟩
  -- what is written was an event of the session, and each of those can be shown
  intro l hl clock
  obtain ⟨i, hi, rfl⟩ := List.mem_map.1 hl
  have hmem : i ∈ r.issues := (List.mem_filter.1 hi).1
  rw [hr] at hmem
  rw [Line.isSome_text?]
  exact isShowable_of_mem_issues (p.showable_events acts) hmem

end

/-- A bag without catalogues is installed twice.  The strict run holds back the first line that
    tells of it and writes the second, since the level was lowered in between. -/
theorem record_levels_lowered :
    let acts : List Act :=
      [.use (.newBag []), .setUp { defaultLocale := .known default }, .install ⟨0⟩ ⟨0⟩,
        .negotiate ⟨0⟩ (some "ab"), .setLevel "Info", .install ⟨0⟩ ⟨0⟩]
    let r := record (fun p _ => p) Severity.debug.level {} acts
    let r' := record (fun p _ => p) Severity.warn.level {} acts
    let missing := "Default locale has no catalogue"
    let installed := "I18n service initialized"
    r'.answers = r.answers ∧ r'.session = r.session ∧
      r.written.map Line.message =
        [missing, installed, "Negotiated locale", "Log level changed", missing, installed] ∧
      r'.written.map Line.message = [missing, "Log level changed", missing, installed] := by
  intro acts r r' missing installed
  obtain ⟨hanswers, hsession, -⟩ :=
    record_levels (fun p _ => p) {} acts (show Severity.debug.rank ≤ Severity.warn.rank by decide)
  exact ⟨hanswers, hsession, by decide +kernel, by decide +kernel⟩

end Session

end Phrasebook

import Phrasebook.Proofs.Members
import Phrasebook.Proofs.Number.Hundredths
import Phrasebook.Proofs.Number.Shortest
import Phrasebook.Timer

namespace Phrasebook

/-!
# Durations

A timer reads the clock at its start.  At the end the clock is read for the duration that is
returned, and read once more for the one that the line shows, while the line also tells the first
one.  The line agrees with itself just where both readings are shown alike: where they are the same,
or where both are past the first second and no hundredth of a second lies between them.

* `Clock.after`, `Clock.Gives`: a clock, and whole milliseconds that it gives reading by reading.
* `Clock.Forward`: readings that never go back.
* `Shows`, `shows_durationText`: how a duration is shown.
* `ShownAlike`, `durationText_eq_iff`: the durations that are shown alike.
* `Clock.timed`, `Clock.Gives.timed`: a timer that is started, left running and finished.
* `Timer.Completes`, `Timer.Tells`: what the line at the end holds, and what it should hold.
* `finish_consistent_iff`: the clocks by which the line tells what is returned.
* `not_finish_consistent`: a clock by which it does not.
-/

open Number

/-! ### Clocks -/

namespace Clock

/-- The clock after a number of readings. -/
def after (c : Clock) : Nat → Clock
  | 0 => c
  | k + 1 => c.read.2.after k

/-- A clock that gives whole numbers, one reading after another. -/
def Gives (c : Clock) (ns : Nat → Int) : Prop :=
  ∀ k, (c.after k).read.1.toInt? = some (ns k)

/-- One reading more. -/
theorem read_after (c : Clock) (k : Nat) : (c.after k).read.2 = c.after (k + 1) := by
  induction k generalizing c with
  | zero => rfl
  | succ k ih => exact ih c.read.2

/-- A clock that has come to its last reading gives that one for ever. -/
theorem gives_last {x : Double} {n : Int} (hx : x.toInt? = some n) :
    Gives { now := x } fun _ => n := by
  have hstay : ∀ k, after { now := x } k = { now := x } := by
    intro k
    induction k with
    | zero => rfl
    | succ k ih => exact ih
  intro k
  rw [hstay k]
  exact hx

/-- A reading, and then others. -/
def andThen (n : Int) (ns : Nat → Int) : Nat → Int
  | 0 => n
  | k + 1 => ns k

/-- A reading may be put before those of a clock. -/
theorem Gives.andThen {x y : Double} {later : List Double} {ns : Nat → Int}
    (h : Gives { now := y, later := later } ns) {n : Int} (hx : x.toInt? = some n) :
    Gives { now := x, later := y :: later } (andThen n ns) := by
  intro k
  cases k with
  | zero => exact hx
  | succ k => exact h k

/-- Readings that never go back. -/
def Forward (ns : Nat → Int) : Prop :=
  ∀ k, ns k ≤ ns (k + 1)

/-- No reading is before the first one. -/
theorem Forward.zero_le {ns : Nat → Int} (h : Forward ns) (k : Nat) : ns 0 ≤ ns k := by
  induction k with
  | zero => exact Int.le_refl _
  | succ k ih => exact Int.le_trans ih (h k)

/-- A clock that stands still does not go back. -/
theorem forward_last (n : Int) : Forward fun _ => n :=
  fun _ => Int.le_refl n

theorem Forward.andThen {n : Int} {ns : Nat → Int} (h : Forward ns) (hn : n ≤ ns 0) :
    Forward (andThen n ns) := by
  intro k
  cases k with
  | zero => exact hn
  | succ k => exact h k

end Clock

/-! ### How durations are shown -/

/-- How a duration of whole milliseconds is shown: in milliseconds below a second, and else in
    seconds with two decimals, as the hundredth of a second next to it. -/
inductive Shows (n : Int) (shown : String) : Prop
  | milliseconds (below : n < 1000) (digits : shown = intText n ++ "ms")
  | seconds (hundredths : Nat) (above : 1000 ≤ n)
      (near : 10 * hundredths ≤ n + 5 ∧ n ≤ 10 * hundredths + 5)
      (digits : shown = hundredthsText hundredths ++ "s")

/-- Times below a second are safe integers. -/
theorem safe_of_lt_thousand {n : Int} (hn : 0 ≤ n) (h : n < 1000) : n.natAbs ≤ Double.maxSafe := by
  have hmax : 1000 ≤ Double.maxSafe := by decide
  omega

/-- A second or more is told from less. -/
theorem thousand_le_iff (n : Int) : Double.ofInt 1000 ≤ .ofInt n ↔ 1000 ≤ n :=
  Double.ofInt_le_ofInt_iff (by decide) n

/-- Less than a second is written in milliseconds. -/
theorem durationText_of_lt {n : Int} (hn : 0 ≤ n) (h : n < 1000) :
    durationText (.ofInt n) = intText n ++ "ms" := by
  have hbelow : ¬ Double.ofInt 1000 ≤ .ofInt n := mt (thousand_le_iff n).1 (by omega)
  rw [durationText, if_neg hbelow, Double.text_ofInt (safe_of_lt_thousand hn h)]

/-- A second or more is written in seconds. -/
theorem durationText_of_le {n : Int} (h : 1000 ≤ n) :
    durationText (.ofInt n) = ((Double.ofInt n).div 1000).fixed ++ "s" := by
  rw [durationText, if_pos ((thousand_le_iff n).2 h)]

/-- Every duration of at most 53 bits is shown so. -/
theorem shows_durationText {n : Int} (hn : 0 ≤ n) (hsafe : n ≤ Double.maxSafe) :
    Shows n (durationText (.ofInt n)) := by
  by_cases h : n < 1000
  · exact .milliseconds h (durationText_of_lt hn h)
  · obtain ⟨m, rfl⟩ := Int.eq_ofNat_of_zero_le hn
    obtain ⟨hundredths, hlow, hhigh, hfixed⟩ := Double.fixed_div_thousand (m := m) (by omega)
    apply Shows.seconds hundredths (by omega) (by omega)
    rw [durationText_of_le (by omega), hfixed]

/-! ### Durations that are shown alike -/

/-- The second of two durations is shown like the first, which is not longer: it is the same, or
    both are seconds with the same two decimals. -/
def ShownAlike (n m : Int) : Prop :=
  n = m ∨ 1000 ≤ n ∧ ((Double.ofInt m).div 1000).fixed = ((Double.ofInt n).div 1000).fixed

instance (n m : Int) : Decidable (ShownAlike n m) :=
  inferInstanceAs (Decidable (_ ∨ _))

/-- No number of seconds is shown like a number of milliseconds. -/
theorem fixed_ne_milliseconds (x : Double) (n : Int) : x.fixed ++ "s" ≠ intText n ++ "ms" := by
  intro heq
  have hchars := congrArg String.toList heq
  rw [String.toList_append, String.toList_append] at hchars
  -- the letter before the last one would be a letter of the number
  have hlast : x.fixed.toList ++ ['s'] = (intText n).toList ++ ['m'] ++ ['s'] := by
    rw [List.append_assoc]
    exact hchars
  have hfixed : x.fixed.toList = (intText n).toList ++ ['m'] := List.append_cancel_right hlast
  have hshown : Double.isShown 'm' = true := by
    apply Double.isShown_of_mem_fixed (x := x)
    rw [hfixed]
    simp
  exact absurd hshown (by decide)

/-- Two times are written alike just where they are shown alike. -/
theorem durationText_eq_iff {n m : Int} (hn : 0 ≤ n) (hle : n ≤ m) :
    durationText (.ofInt m) = durationText (.ofInt n) ↔ ShownAlike n m := by
  by_cases hsecond : 1000 ≤ n
  · rw [durationText_of_le hsecond, durationText_of_le (by omega), String.append_left_inj]
    constructor
    · intro h
      exact Or.inr ⟨hsecond, h⟩
    · rintro (rfl | ⟨-, h⟩)
      · rfl
      · exact h
  · have halike : ShownAlike n m ↔ n = m := or_iff_left fun h => hsecond h.1
    rw [halike, durationText_of_lt hn (by omega)]
    by_cases hlater : 1000 ≤ m
    · rw [durationText_of_le hlater]
      exact iff_of_false (fixed_ne_milliseconds _ n) (by omega)
    · rw [durationText_of_lt (by omega) (by omega), String.append_left_inj]
      exact ⟨fun h => (intText_inj h).symm, fun h => congrArg _ h.symm⟩

/-! ### A timer from its start to its end -/

/-- What a timer gives that is started now and finished after some more readings of its clock: the
    duration, the events, and the clock as it is left. -/
def Clock.timed (c : Clock) (operation origin : Option String) (k : Nat)
    (context : List (String × Value)) : Double × List LogEvent × Clock :=
  let (t, c) := Timer.begin c operation origin
  t.finish (c.after k) context

namespace Timer

/-- The line at the end: what it is of, and what it says of that. -/
structure Completes (operation origin : String) (context : List (String × Value)) (value : Double)
    (shown : String) (l : Line) : Prop where
  severity : l.severity = .info
  origin : l.origin = origin
  message : l.message = operation ++ " completed"
  names : (l.context.map Prod.fst).Nodup
  durationMs : lookupEntry "durationMs" l.context = some (.number value)
  duration : lookupEntry "duration" l.context = some (.text shown)
  others : ∀ name, name ≠ "durationMs" → name ≠ "duration" →
    lookupEntry name l.context = lookupEntry name context.reverse

/-- A line tells a duration, as a number and as it is shown. -/
structure Tells (value : Double) (l : Line) : Prop where
  durationMs : lookupEntry "durationMs" l.context = some (.number value)
  duration : lookupEntry "duration" l.context = some (.text (durationText value))

/-- The line at the end says what the timer was started with. -/
theorem completes_finishLine (operation origin : String) (context : List (String × Value))
    (value : Double) (shown : String) :
    Completes operation origin context value shown
      (finishLine operation origin (finishContext context shown value)) := by
  have hvalues : ∀ name, lookupEntry name (finishContext context shown value)
      = (lookupEntry name [("durationMs", .number value), ("duration", .text shown)]).or
        (lookupEntry name context.reverse) := by
    intro name
    rw [finishContext, (Members.lists_ofList _).values, List.reverse_append, lookupEntry_append]
    rfl
  refine ⟨rfl, rfl, rfl, nodup_ofList _, ?_, ?_, fun name hms hshown => ?_⟩
  · exact hvalues "durationMs"
  · exact hvalues "duration"
  · show lookupEntry name (finishContext context shown value) = _
    rw [hvalues, lookupEntry, if_neg (Ne.symm hms), lookupEntry, if_neg (Ne.symm hshown),
      lookupEntry, Option.none_or]

/-- The line tells the duration that is returned just where the other one is shown alike. -/
theorem Completes.tells_iff {operation origin : String} {context : List (String × Value)}
    {n m : Int} {l : Line} (h : Completes operation origin context (.ofInt n)
      (durationText (.ofInt m)) l) (hn : 0 ≤ n) (hle : n ≤ m) :
    Tells (.ofInt n) l ↔ ShownAlike n m := by
  rw [← durationText_eq_iff hn hle]
  constructor
  · intro htells
    have heq := h.duration.symm.trans htells.duration
    exact Value.text.inj (Option.some.inj heq)
  · intro heq
    exact ⟨h.durationMs, heq ▸ h.duration⟩

/-- A line of its severity is all that is written, or nothing is. -/
theorem Completes.written {operation origin shown : String} {context : List (String × Value)}
    {value : Double} {l : Line} (h : Completes operation origin context value shown l)
    (level : Double) :
    written level [.line l] = if isWritten level .info then [l] else [] := by
  rw [Phrasebook.written, Phrasebook.written, h.severity]

end Timer

namespace Clock

variable {c : Clock} {ns : Nat → Int}

variable (operation origin : Option String) (k : Nat) (context : List (String × Value))

/-- The time since a timer was started, by a later reading. -/
theorem Gives.elapsed (h : c.Gives ns) :
    (Timer.begin c operation origin).1.elapsed (c.after k)
      = (.ofInt (ns k - ns 0), c.after (k + 1)) := by
  have hsub : (c.after k).read.1.sub c.read.1 = .ofInt (ns k - ns 0) :=
    Double.sub_of_toInt? (h k) (h 0)
  show ((c.after k).read.1.sub c.read.1, (c.after k).read.2) = _
  rw [hsub, c.read_after]

/-- Without an operation and an origin there is a duration, and no line. -/
theorem Gives.timed_silent (h : c.Gives ns) (hsilent : operation.getD "" = "" ∨ origin = none) :
    c.timed operation origin k context = (.ofInt (ns (k + 1) - ns 0), [], c.after (k + 2)) := by
  show Timer.finish (Timer.begin c operation origin).1 (c.after (k + 1)) context = _
  rw [Timer.finish, h.elapsed]
  cases operation with
  | none => rfl
  | some operation =>
    cases origin with
    | none => rfl
    | some origin =>
      obtain rfl : operation = "" := hsilent.resolve_right (by simp)
      rfl

/-- The duration at the end is of the first reading there, and the text of the line is of the one
    after it. -/
theorem Gives.timed (h : c.Gives ns) {operation : String} (hoperation : operation ≠ "")
    (origin : String) :
    c.timed (some operation) (some origin) k context
      = (.ofInt (ns (k + 1) - ns 0),
          [.line (Timer.finishLine operation origin (Timer.finishContext context
            (durationText (.ofInt (ns (k + 2) - ns 0))) (.ofInt (ns (k + 1) - ns 0))))],
          c.after (k + 3)) := by
  have hnamed : operation.isEmpty = false := by simpa using hoperation
  show Timer.finish (Timer.begin c (some operation) (some origin)).1 (c.after (k + 1)) context = _
  rw [Timer.finish, h.elapsed]
  show (if operation.isEmpty = true then _ else _) = _
  -- the clock has been read once when the text is made
  rw [hnamed, if_neg Bool.false_ne_true, Timer.elapsedText, h.elapsed]

end Clock

/-! ### The line at the end -/

/-- A timer by a clock of whole milliseconds that never goes back: it returns the time up to the
    first reading at the end, a number that is written in digits and shown as durations are.  Its
    line, written where lines of its severity are, tells that time as a number, and shows the time
    up to the next reading.  So it tells what is returned, as a number and as it is shown, if and
    only if the two are shown alike. -/
theorem finish_consistent_iff {c : Clock} {ns : Nat → Int} (hgives : c.Gives ns)
    (hns : Clock.Forward ns) (operation origin : Option String) (k : Nat)
    (context : List (String × Value)) :
    let ended := c.timed operation origin k context
    let returned := ns (k + 1) - ns 0
    let shown := ns (k + 2) - ns 0
    ended.1 = .ofInt returned ∧
    (returned ≤ Double.maxSafe →
      ended.1.text = intText returned ∧ Shows returned (durationText ended.1)) ∧
    ((operation.getD "" = "" ∨ origin = none) ∧ ended.2.1 = [] ∨
      ∃ name place l, operation = some name ∧ name ≠ "" ∧ origin = some place ∧
        ended.2.1 = [.line l] ∧
        (∀ level, written level ended.2.1 = if isWritten level .info then [l] else []) ∧
        Timer.Completes name place context ended.1 (durationText (.ofInt shown)) l ∧
        (Timer.Tells ended.1 l ↔ ShownAlike returned shown)) := by
  intro ended returned shown
  -- the clock is read for the value, and again for the text, which is not earlier
  have hreturned : 0 ≤ returned := Int.sub_nonneg.2 (hns.zero_le _)
  have hshown : returned ≤ shown := Int.sub_le_sub_right (hns _) _
  have hwritten : returned ≤ Double.maxSafe →
      (Double.ofInt returned).text = intText returned ∧
        Shows returned (durationText (.ofInt returned)) :=
    fun hsafe => ⟨Double.text_ofInt (by omega), shows_durationText hreturned hsafe⟩
  -- without a name or a logger there is no second reading
  by_cases hsilent : operation.getD "" = "" ∨ origin = none
  · have hended : ended = (.ofInt returned, [], c.after (k + 2)) :=
      hgives.timed_silent operation origin k context hsilent
    rw [hended]
    dsimp only
    exact ⟨rfl, hwritten, Or.inl ⟨hsilent, rfl⟩⟩
  · obtain ⟨name, hname, place, rfl, rfl⟩ : ∃ name, name ≠ "" ∧ ∃ place,
        operation = some name ∧ origin = some place := by
      cases operation <;> cases origin <;> simp_all
    let l := Timer.finishLine name place
      (Timer.finishContext context (durationText (.ofInt shown)) (.ofInt returned))
    have hended : ended = (.ofInt returned, [.line l], c.after (k + 3)) :=
      hgives.timed k context hname place
    have hcompletes : Timer.Completes name place context (.ofInt returned)
        (durationText (.ofInt shown)) l := Timer.completes_finishLine _ _ _ _ _
    rw [hended]
    dsimp only
    refine ⟨rfl, hwritten, Or.inr ⟨name, place, l, rfl, hname, rfl, rfl, ?_⟩⟩
    exact ⟨hcompletes.written, hcompletes, hcompletes.tells_iff hreturned hshown⟩

/-- Three milliseconds between the readings at the end, in the same hundredth of a second. -/
theorem finish_consistent_iff_hundredth :
    let c : Clock := ⟨.ofInt 0, [.ofInt 1234, .ofInt 1501, .ofInt 1504]⟩
    let context := [("durationMs", .null), ("files", .number (.ofInt 2)), ("duration", .text "")]
    let ended := c.timed (some "load") (some "LOADER") 1 context
    ∃ l, ended.1 = .ofInt 1501 ∧ ended.2.1 = [.line l] ∧ Timer.Tells ended.1 l ∧
      written Severity.info.level ended.2.1 = [l] ∧
      lookupEntry "files" l.context = some (.number (.ofInt 2)) := by
  intro c context ended
  let ns := Clock.andThen 0 (Clock.andThen 1234 (Clock.andThen 1501 fun _ => 1504))
  have hlast := Clock.gives_last (Double.toInt?_ofInt (n := 1504) (by decide))
  have hend := hlast.andThen (Double.toInt?_ofInt (n := 1501) (by decide))
  have hbetween := hend.andThen (Double.toInt?_ofInt (n := 1234) (by decide))
  have hgives : c.Gives ns := hbetween.andThen (Double.toInt?_ofInt (n := 0) (by decide))
  have hns : Clock.Forward ns := (((Clock.forward_last 1504).andThen (n := 1501)
    (by decide)).andThen (n := 1234) (by decide)).andThen (n := 0) (by decide)
  have hreturned : ns (1 + 1) - ns 0 = 1501 := by decide
  have hshown : ns (1 + 2) - ns 0 = 1504 := by decide
  have halike : ShownAlike 1501 1504 := by decide +kernel
  have hopen : isWritten Severity.info.level .info = true := by decide +kernel
  have hends := finish_consistent_iff hgives hns (some "load") (some "LOADER") 1 context
  simp only [hreturned, hshown] at hends
  obtain ⟨hvalue, -, ⟨hsilent, -⟩ | hline⟩ := hends
  · exact absurd hsilent (by decide)
  · obtain ⟨name, place, l, -, -, -, hevents, hwritten, hcompletes, htells⟩ := hline
    refine ⟨l, hvalue, hevents, htells.2 halike, ?_, ?_⟩
    · exact (hwritten _).trans (if_pos hopen)
    · exact hcompletes.others "files" (by decide) (by decide)

/-- A millisecond between the readings at the end, and the line shows a second where 999
    milliseconds are returned. -/
theorem not_finish_consistent :
    let c : Clock := ⟨.ofInt 0, [.ofInt 999, .ofInt 1000]⟩
    let ended := c.timed (some "load") (some "LOADER") 0 []
    ∃ l, ended.1 = .ofInt 999 ∧ ended.2.1 = [.line l] ∧ ¬ Timer.Tells ended.1 l ∧
      written Severity.info.level ended.2.1 = [l] ∧
      lookupEntry "duration" l.context = some (.text "1.00s") := by
  intro c ended
  let ns := Clock.andThen 0 (Clock.andThen 999 fun _ => 1000)
  have hlast := Clock.gives_last (Double.toInt?_ofInt (n := 1000) (by decide))
  have hend := hlast.andThen (Double.toInt?_ofInt (n := 999) (by decide))
  have hgives : c.Gives ns := hend.andThen (Double.toInt?_ofInt (n := 0) (by decide))
  have hreturned : ns (0 + 1) - ns 0 = 999 := by decide
  have hshown : ns (0 + 2) - ns 0 = 1000 := by decide
  have hopen : isWritten Severity.info.level .info = true := by decide +kernel
  have htext : durationText (.ofInt 1000) = "1.00s" := by decide +kernel
  have halike : ¬ ShownAlike 999 1000 := by
    unfold ShownAlike
    omega
  have hcompletes := Timer.completes_finishLine "load" "LOADER" [] (.ofInt 999)
    (durationText (.ofInt 1000))
  have htells := mt (hcompletes.tells_iff (by decide) (by decide)).1 halike
  have hended := hgives.timed 0 [] (show "load" ≠ "" by decide) "LOADER"
  rw [hreturned, hshown, htext] at hended
  rw [htext] at hcompletes htells
  rw [show ended = _ from hended]
  dsimp only
  exact ⟨_, rfl, rfl, htells, (hcompletes.written _).trans (if_pos hopen), hcompletes.duration⟩

end Phrasebook

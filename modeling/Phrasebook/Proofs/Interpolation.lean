import Phrasebook.Proofs.Dict
import Phrasebook.Proofs.Number.Digits
import Phrasebook.Segment

namespace Phrasebook

/-!
# Interpolation

A text with placeholders can be cut into parts in one way only, and what it puts out is the cut
read in a context, part by part.

* `Segmentation`: the rule of the cut, one constructor for each kind of part.
* `segmentation_iff`: `segments` is the one cut that keeps the rule.
* `Context.value?`: the value of a placeholder, said with positions and first entries.
* `outputs`: what a row of parts puts out; a nameless placeholder takes the value whose position is
  the number of nameless placeholders before it.
* `Pass`: a reading of the text from left to right that never looks back at what it has put out.
* `interpolate_eq_outputs`: all three say the same.
-/

/-! ### The rule of the cut -/

/-- `Segmentation s ps`: the parts `ps` cut the text `s`.  A placeholder ends at the first closing
    brace, and an opening brace starts one only where no second one follows it. -/
inductive Segmentation : List Char → List Segment → Prop
  | nil : Segmentation [] []
  | plain {c : Char} {s : List Char} {ps : List Segment} (hopen : c ≠ '{') (hclose : c ≠ '}')
      (rest : Segmentation s ps) : Segmentation (c :: s) (.plain c :: ps)
  | openBrace {s : List Char} {ps : List Segment} (rest : Segmentation s ps) :
      Segmentation ('{' :: '{' :: s) (.openBrace :: ps)
  | closeBrace {s : List Char} {ps : List Segment} (rest : Segmentation s ps) :
      Segmentation ('}' :: '}' :: s) (.closeBrace :: ps)
  | loneBrace {s : List Char} {ps : List Segment} (hnext : s.head? ≠ some '}')
      (rest : Segmentation s ps) : Segmentation ('}' :: s) (.loneBrace :: ps)
  | token {inner s : List Char} {ps : List Segment} (hopen : inner.head? ≠ some '{')
      (hclose : '}' ∉ inner) (rest : Segmentation s ps) :
      Segmentation ('{' :: (inner ++ '}' :: s)) (.token inner :: ps)
  | unclosed {s : List Char} (hopen : s.head? ≠ some '{') (hclose : '}' ∉ s) :
      Segmentation ('{' :: s) [.unclosed s]

/-- Nothing is found where there is no closing brace. -/
theorem closeToken?_eq_none {s : List Char} (h : closeToken? s = none) : '}' ∉ s := by
  fun_induction closeToken? s with
  | case1 => simp
  | case2 s => simp at h
  | case3 c s hc ih =>
    have hs : '}' ∉ s := ih (by simpa using h)
    have hne : '}' ≠ c := fun he => hc he.symm
    simp [hne, hs]

/-- The text before the first closing brace has none. -/
theorem not_mem_of_closeToken? {s inner rest : List Char}
    (h : closeToken? s = some (inner, rest)) : '}' ∉ inner := by
  fun_induction closeToken? s generalizing inner with
  | case1 => simp at h
  | case2 s =>
    obtain ⟨rfl, rfl⟩ : [] = inner ∧ s = rest := by simpa using h
    simp
  | case3 c s hc ih =>
    obtain ⟨⟨inner', rest'⟩, hp, he⟩ := Option.map_eq_some_iff.1 h
    obtain ⟨rfl, rfl⟩ : c :: inner' = inner ∧ rest' = rest := by simpa using he
    have hne : '}' ≠ c := fun he => hc he.symm
    simp [hne, ih hp]

/-- The first closing brace after a text without one. -/
theorem closeToken?_append {inner : List Char} (h : '}' ∉ inner) (s : List Char) :
    closeToken? (inner ++ '}' :: s) = some (inner, s) := by
  induction inner with
  | nil => rfl
  | cons c inner ih =>
    obtain ⟨hc, hinner⟩ : '}' ≠ c ∧ '}' ∉ inner := by simpa using h
    rw [List.cons_append, closeToken?, ih hinner]
    · rfl
    · exact fun he => hc he.symm

/-- Without a brace that closes it there is no token. -/
theorem closeToken?_of_not_mem {s : List Char} (h : '}' ∉ s) : closeToken? s = none := by
  cases hs : closeToken? s with
  | none => rfl
  | some p => exact absurd (by rw [closeToken?_eq hs]; simp) h

/-- `segments` keeps the rule. -/
theorem segmentation_segments (s : List Char) : Segmentation s (segments s) := by
  fun_induction segments s with
  | case1 => exact .nil
  | case2 s ih => exact .closeBrace ih
  | case3 s hnext ih => exact .loneBrace (by cases s <;> simp_all) ih
  | case4 s ih => exact .openBrace ih
  | case5 s hopen hclose =>
    exact .unclosed (by cases s <;> simp_all) (closeToken?_eq_none hclose)
  | case6 s hopen inner rest hclose _ ih =>
    have hs : s = inner ++ '}' :: rest := closeToken?_eq hclose
    rw [hs]
    refine .token ?_ (not_mem_of_closeToken? hclose) ih
    cases inner <;> simp_all
  | case7 c s _ hclose _ hopen ih => exact .plain (by simp_all) (by simp_all) ih

/-- A cut that keeps the rule is the one that `segments` makes. -/
theorem Segmentation.eq_segments {s : List Char} {ps : List Segment} (h : Segmentation s ps) :
    ps = segments s := by
  -- on the cut: each rule is a branch of the scanner
  induction h with
  | nil => rw [segments]
  | plain hopen hclose _ ih => rw [segments, ← ih] <;> simp_all
  | openBrace _ ih => rw [segments, ← ih]
  | closeBrace _ ih => rw [segments, ← ih]
  | @loneBrace s ps hnext _ ih =>
    rw [segments, ← ih]
    rintro t rfl
    exact hnext rfl
  | @token inner s ps hopen hclose _ ih =>
    rw [segments]
    · -- the search for the closing brace ends where `inner` does
      split
      · next h => simp [closeToken?_append hclose] at h
      · next i r h =>
        obtain ⟨rfl, rfl⟩ : inner = i ∧ s = r := by simpa [closeToken?_append hclose] using h
        rw [ih]
    · intro t ht
      cases inner <;> simp_all
  | @unclosed s hopen hclose =>
    rw [segments]
    · -- the search finds none
      split
      · rfl
      · next h => simp [closeToken?_of_not_mem hclose] at h
    · rintro t rfl
      exact hopen rfl

/-- A text has one cut, whatever it is read in. -/
theorem segmentation_iff (s : List Char) (ps : List Segment) :
    Segmentation s ps ↔ ps = segments s :=
  ⟨Segmentation.eq_segments, fun h => h ▸ segmentation_segments s⟩

/-! ### What parts put out -/

/-- The value of a placeholder with the text `inner` between its braces, where `k` nameless
    placeholders stand before it. -/
def Context.value? (c : Context) (k : Nat) (inner : List Char) : Option Scalar :=
  if inner = [] then c.values[k]?.map Prod.snd
  else
    let name := Text.trim inner
    if name ≠ [] ∧ name.all Char.isDigit = true then
      c.values[Nat.ofDigitChars 10 name 0]?.map Prod.snd
    else if name = ['?'] then c.count
    else (c.values.find? fun e => e.1 = String.ofList name).map Prod.snd

/-- What one part puts out, where `k` nameless placeholders stand before it. -/
def Segment.output (c : Context) (k : Nat) : Segment → List Char
  | openBrace => ['{']
  | closeBrace => ['}']
  | token inner =>
    match c.value? k inner with
    | some v => v.shown.toList
    | none => (token inner).source
  | p => p.source

/-- What a row of parts puts out, where `k` nameless placeholders stand before it. -/
def outputs (c : Context) (k : Nat) (ps : List Segment) : List Char :=
  (ps.mapIdx fun j p => p.output c (k + (ps.take j).countP Segment.isSequential)).flatten

/-- A position is written in digits, and its value is that of the digits. -/
theorem position?_eq (name : List Char) :
    position? name
      = if name ≠ [] ∧ name.all Char.isDigit = true then some (Nat.ofDigitChars 10 name 0)
        else none := by
  unfold position?
  by_cases h : name ≠ [] ∧ name.all Char.isDigit = true
  · rw [if_pos h, ← Number.natOfDigits_eq (List.all_eq_true.1 h.2), if_pos]
    simpa [Number.isDigit_eq] using h
  · rw [if_neg h, if_neg]
    simpa [Number.isDigit_eq] using h

/-- A token stands for the value that the context has for it. -/
theorem Context.resolve_eq_value? (c : Context) (k : Nat) (inner : List Char) :
    c.resolve k inner = c.value? k inner := by
  unfold Context.resolve Context.value?
  by_cases hinner : inner = []
  · simp [hinner, Context.at?]
  · have hempty : inner.isEmpty = false := by simpa using hinner
    simp only [hempty, Bool.false_eq_true, if_false, if_neg hinner, position?_eq]
    by_cases hname : Text.trim inner ≠ [] ∧ (Text.trim inner).all Char.isDigit = true
    · rw [if_pos hname, if_pos hname]
      rfl
    · rw [if_neg hname, if_neg hname, Context.get?, lookupEntry_eq_find?]
      rfl

/-- A segment is rendered as what it puts out. -/
theorem Segment.render_eq_output (c : Context) (k : Nat) (p : Segment) :
    p.render c k = p.output c k := by
  cases p with
  | token inner =>
    have hvalue := Context.resolve_eq_value? c k inner
    cases h : c.value? k inner with
    | none | some v =>
      rw [h] at hvalue
      simp only [Segment.render, Segment.output, hvalue, h]
  | plain | openBrace | closeBrace | loneBrace | unclosed => rfl

@[simp] theorem outputs_nil (c : Context) (k : Nat) : outputs c k [] = [] := rfl

/-- The count of nameless placeholders goes on where the first part leaves it. -/
theorem outputs_cons (c : Context) (k : Nat) (p : Segment) (ps : List Segment) :
    outputs c k (p :: ps)
      = p.output c k ++ outputs c (if p.isSequential then k + 1 else k) ps := by
  unfold outputs
  rw [List.mapIdx_cons, List.flatten_cons]
  have hshift : ∀ j, k + ((p :: ps).take (j + 1)).countP Segment.isSequential
      = (if p.isSequential then k + 1 else k) + (ps.take j).countP Segment.isSequential := by
    intro j
    rw [List.take_succ_cons, List.countP_cons]
    split <;> omega
  simp only [hshift]
  rfl

/-- The values taken by the first part are taken when the second one begins. -/
theorem outputs_append (c : Context) (k : Nat) (ps qs : List Segment) :
    outputs c k (ps ++ qs)
      = outputs c k ps ++ outputs c (k + ps.countP Segment.isSequential) qs := by
  induction ps generalizing k with
  | nil => simp
  | cons p ps ih =>
    have hcount : (if p.isSequential then k + 1 else k) + ps.countP Segment.isSequential
        = k + (p :: ps).countP Segment.isSequential := by
      rw [List.countP_cons]
      split <;> omega
    rw [List.cons_append, outputs_cons, outputs_cons, ih, hcount, List.append_assoc]

/-- Segments are rendered as what they put out, from any count on. -/
theorem renderFrom_eq_outputs (c : Context) (k : Nat) (ps : List Segment) :
    renderFrom c k ps = outputs c k ps := by
  induction ps generalizing k with
  | nil => rfl
  | cons p ps ih => rw [renderFrom, outputs_cons, ih, Segment.render_eq_output]

/-! ### One pass -/

/-- A reading from left to right: the text ahead, how many values have been taken in order, and
    what has been put out. -/
structure Pass where
  ahead : List Char
  taken : Nat := 0
  out : List Char := []

namespace Pass

/-- One move of a pass.  It looks at the text ahead only. -/
def move (c : Context) (p : Pass) : Pass :=
  match p.ahead with
  | [] => p
  | '}' :: s =>
    { p with ahead := if s.head? = some '}' then s.tail else s, out := p.out ++ ['}'] }
  | '{' :: s =>
    if s.head? = some '{' then { p with ahead := s.tail, out := p.out ++ ['{'] }
    else if '}' ∈ s then
      let inner := s.takeWhile (· ≠ '}')
      { ahead := (s.dropWhile (· ≠ '}')).tail
        taken := if inner = [] then p.taken + 1 else p.taken
        out := p.out ++ (match c.value? p.taken inner with
          | some v => v.shown.toList
          | none => '{' :: (inner ++ ['}'])) }
    else { p with ahead := [], out := p.out ++ '{' :: s }
  | ch :: s => { p with ahead := s, out := p.out ++ [ch] }

/-- Every move reads something. -/
theorem length_ahead_move (c : Context) {p : Pass} (h : p.ahead ≠ []) :
    (p.move c).ahead.length < p.ahead.length := by
  unfold move
  split
  · next hs => exact absurd hs h
  · next s hs =>
    rw [hs]
    split <;> simp only [List.length_tail, List.length_cons] <;> omega
  · next s hs =>
    rw [hs]
    split
    · simp only [List.length_tail, List.length_cons]
      omega
    · split
      · have hle : (s.dropWhile (· ≠ '}')).length ≤ s.length := (List.dropWhile_sublist _).length_le
        simp only [List.length_tail, List.length_cons]
        omega
      · simp
  · next hs => simp [hs]

/-- What a pass has put out when nothing is ahead of it any more. -/
def finish (c : Context) (p : Pass) : List Char :=
  if p.ahead = [] then p.out else (p.move c).finish c
termination_by p.ahead.length
decreasing_by exact length_ahead_move c ‹_›

/-- A move reads the first part of the cut and puts out what that part puts out. -/
theorem move_eq {s : List Char} {q : Segment} {ps : List Segment}
    (h : Segmentation s (q :: ps)) (c : Context) (k : Nat) (out : List Char) :
    ∃ s', Segmentation s' ps ∧
      move c ⟨s, k, out⟩
        = ⟨s', if q.isSequential then k + 1 else k, out ++ q.output c k⟩ := by
  -- one case a segment: each move takes up the first one
  cases h with
  | @plain ch s _ hopen hclose rest =>
    refine ⟨s, rest, ?_⟩
    unfold move
    split <;> simp_all [Segment.output, Segment.source, Segment.isSequential]
  | @openBrace s _ rest => exact ⟨s, rest, by simp [move, Segment.output, Segment.isSequential]⟩
  | @closeBrace s _ rest => exact ⟨s, rest, by simp [move, Segment.output, Segment.isSequential]⟩
  | @loneBrace s _ hnext rest =>
    exact ⟨s, rest, by simp [move, hnext, Segment.output, Segment.source, Segment.isSequential]⟩
  | @token inner s _ hopen hclose rest =>
    refine ⟨s, rest, ?_⟩
    -- no second brace follows, and the token ends at the first brace that closes
    have hhead : (inner ++ '}' :: s).head? ≠ some '{' := by cases inner <;> simp_all
    have hmem : '}' ∈ inner ++ '}' :: s := by simp
    have hall : ∀ ch ∈ inner, decide (ch ≠ '}') = true := by
      intro ch hch
      simp only [decide_eq_true_eq]
      rintro rfl
      exact hclose hch
    have htake : (inner ++ '}' :: s).takeWhile (· ≠ '}') = inner := by
      rw [List.takeWhile_append_of_pos hall]
      simp
    have hdrop : (inner ++ '}' :: s).dropWhile (· ≠ '}') = '}' :: s := by
      rw [List.dropWhile_append_of_pos hall]
      simp
    have hseq : (Segment.token inner).isSequential = decide (inner = []) := by
      cases inner <;> rfl
    simp only [move, if_neg hhead, if_pos hmem, htake, hdrop, hseq, decide_eq_true_eq]
    rfl
  | @unclosed s hopen hclose =>
    refine ⟨[], .nil, ?_⟩
    simp [move, hopen, hclose, Segment.output, Segment.source, Segment.isSequential]

/-- A pass that goes on to the end puts out what the rest of the cut puts out. -/
theorem finish_eq (c : Context) {s : List Char} {ps : List Segment} (h : Segmentation s ps)
    (k : Nat) (out : List Char) : finish c ⟨s, k, out⟩ = out ++ outputs c k ps := by
  -- `finish` recurses on what is ahead, but every move reads off one part of the cut
  induction ps generalizing s k out with
  | nil =>
    cases h
    rw [finish]
    simp
  | cons q ps ih =>
    have hs : s ≠ [] := by rintro rfl; cases h
    obtain ⟨s', hrest, hmove⟩ := move_eq h c k out
    rw [finish, if_neg hs, hmove, ih hrest, outputs_cons, List.append_assoc]

end Pass

/-! ### The text with its placeholders filled in -/

/-- A text has one cut, whose parts make up the text and which no context has a say in.  In every
    context the text puts out what the parts put out one after another, and so does one pass over
    it.  A value stands in the result as it is shown, between what the parts before and after its
    placeholder put out. -/
theorem interpolate_eq_outputs (text : String) :
    ∃ ps : List Segment,
      (∀ qs, Segmentation text.toList qs ↔ qs = ps) ∧
      ps.flatMap Segment.source = text.toList ∧
      ∀ c : Context,
        interpolate text c = String.ofList (outputs c 0 ps) ∧
        interpolate text c = String.ofList (Pass.finish c { ahead := text.toList }) ∧
        ∀ (before after : List Segment) (inner : List Char) (v : Scalar),
          ps = before ++ .token inner :: after →
          c.value? (before.countP Segment.isSequential) inner = some v →
          interpolate text c
            = String.ofList (outputs c 0 before) ++ v.shown
              ++ String.ofList (outputs c
                  ((before ++ [Segment.token inner]).countP Segment.isSequential) after) := by
  -- the cut does not depend on the context, the outputs do
  have hcut : Segmentation text.toList (segments text.toList) := segmentation_segments _
  have hout : ∀ c, interpolate text c = String.ofList (outputs c 0 (segments text.toList)) := by
    intro c
    rw [interpolate, renderFrom_eq_outputs]
  refine ⟨segments text.toList, segmentation_iff _, source_segments _, fun c => ⟨hout c, ?_, ?_⟩⟩
  · rw [hout c, Pass.finish_eq c hcut, List.nil_append]
  -- a token that has a value stands for it, whatever stands around it
  · intro before after inner v hps hv
    have hlist : outputs c 0 (before ++ .token inner :: after)
        = outputs c 0 before ++ (v.shown.toList ++
            outputs c ((before ++ [Segment.token inner]).countP Segment.isSequential) after) := by
      rw [List.append_cons, outputs_append, outputs_append, outputs_cons]
      simp [Segment.output, hv]
    rw [hout c, hps, hlist, String.ofList_append, String.ofList_append, String.ofList_toList,
      String.append_assoc]

end Phrasebook

import Phrasebook.Context
import Phrasebook.Text.Blank

namespace Phrasebook

/-!
# Segments

A text with placeholders, cut into the parts that are put out one by one.  The cut depends on the
text alone, so a value is inserted as it is and never read again.

* `Segment`: the kinds of part; `Segment.source` is the text that a part was cut from.
* `segments`: the parts of a text; `source_segments` says that nothing is lost.
* `Segment.render`: what a part puts out in a context.
* `interpolate`: the text with its placeholders filled in.
-/

/-- A part of a text with placeholders. -/
inductive Segment
  /-- a character that stands for itself -/
  | plain (c : Char)
  /-- a doubled opening brace -/
  | openBrace
  /-- a doubled closing brace -/
  | closeBrace
  /-- a closing brace that closes nothing -/
  | loneBrace
  /-- a placeholder, with the text between its braces -/
  | token (inner : List Char)
  /-- an opening brace that nothing closes, with the text after it -/
  | unclosed (rest : List Char)
  deriving DecidableEq, Repr

namespace Segment

/-- The text that a part was cut from. -/
def source : Segment → List Char
  | plain c => [c]
  | openBrace => ['{', '{']
  | closeBrace => ['}', '}']
  | loneBrace => ['}']
  | token inner => '{' :: (inner ++ ['}'])
  | unclosed rest => '{' :: rest

/-- Whether a part takes the next value in order. -/
def isSequential : Segment → Bool
  | token [] => true
  | _ => false

end Segment

/-- The text up to the first closing brace and the text after it. -/
def closeToken? : List Char → Option (List Char × List Char)
  | [] => none
  | '}' :: s => some ([], s)
  | c :: s => (closeToken? s).map fun p => (c :: p.1, p.2)

/-- A token ends before the brace that closes it. -/
theorem closeToken?_eq {s inner rest : List Char} (h : closeToken? s = some (inner, rest)) :
    s = inner ++ '}' :: rest := by
  fun_induction closeToken? s generalizing inner with
  | case1 => simp at h
  | case2 s =>
    simp only [Option.some.injEq, Prod.mk.injEq] at h
    obtain ⟨rfl, rfl⟩ := h
    rfl
  | case3 c s _ ih =>
    obtain ⟨p, hp, hpair⟩ := Option.map_eq_some_iff.1 h
    simp only [Prod.mk.injEq] at hpair
    obtain ⟨rfl, rfl⟩ := hpair
    rw [ih hp]
    rfl

/-- What comes after a token is shorter than what it is cut from. -/
theorem length_lt_of_closeToken? {s inner rest : List Char}
    (h : closeToken? s = some (inner, rest)) : rest.length < s.length + 1 := by
  rw [closeToken?_eq h, List.length_append, List.length_cons]
  omega

/-- The parts of a text. -/
def segments : List Char → List Segment
  | [] => []
  | '}' :: '}' :: s => .closeBrace :: segments s
  | '}' :: s => .loneBrace :: segments s
  | '{' :: '{' :: s => .openBrace :: segments s
  | '{' :: s =>
    match h : closeToken? s with
    | none => [.unclosed s]
    | some (inner, rest) =>
      have : rest.length < s.length + 1 := length_lt_of_closeToken? h
      .token inner :: segments rest
  | c :: s => .plain c :: segments s
termination_by s => s.length

/-- Nothing is lost by cutting a text into parts. -/
theorem source_segments (s : List Char) : (segments s).flatMap Segment.source = s := by
  fun_induction segments s with
  | case1 => rfl
  | case2 s ih => simp [Segment.source, ih]
  | case3 s _ ih => simp [Segment.source, ih]
  | case4 s ih => simp [Segment.source, ih]
  | case5 s _ h => simp [Segment.source]
  | case6 s _ inner rest h _ ih => simp [Segment.source, ih, closeToken?_eq h]
  | case7 c s _ _ _ _ ih => simp [Segment.source, ih]

/-! ### Putting out -/

/-- The mark of the count. -/
def countMark : List Char := ['?']

/-- The position that a row of decimal digits names. -/
def position? (name : List Char) : Option Nat :=
  if !name.isEmpty && name.all Number.isDigit then some (Number.natOfDigits name) else none

/-- The value that a placeholder names, where `next` values have been taken in order. -/
def Context.resolve (c : Context) (next : Nat) (inner : List Char) : Option Scalar :=
  if inner.isEmpty then c.at? next
  else
    let name := Text.trim inner
    match position? name with
    | some p => c.at? p
    | none => if name = countMark then c.count else c.get? (String.ofList name)

/-- What a part puts out: a placeholder without a value puts out its own source. -/
def Segment.render (c : Context) (next : Nat) : Segment → List Char
  | plain ch => [ch]
  | openBrace => ['{']
  | closeBrace => ['}']
  | loneBrace => ['}']
  | token inner =>
    match c.resolve next inner with
    | some v => v.shown.toList
    | none => (token inner).source
  | unclosed rest => (unclosed rest).source

/-- What parts put out, where `next` values have been taken in order. -/
def renderFrom (c : Context) (next : Nat) : List Segment → List Char
  | [] => []
  | p :: ps => p.render c next ++ renderFrom c (if p.isSequential then next + 1 else next) ps

/-- A text with its placeholders filled in. -/
def interpolate (text : String) (c : Context) : String :=
  String.ofList (renderFrom c 0 (segments text.toList))

end Phrasebook

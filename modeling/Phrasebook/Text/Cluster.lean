import Phrasebook.Text.CaseTable
import Phrasebook.Text.ClusterTable
import Phrasebook.Text.Casing

namespace Phrasebook.Text

/-!
# Clusters

A text as the reader sees it: a sequence of *clusters*, each a base character with the marks,
joiners and further parts that belong to it.

* `Class`: what a character does at a cluster boundary.
* `joins`: whether a character belongs to the cluster before it.
* `clusters`: a text cut into its clusters; `flatten_clusters` says that nothing is lost.
-/

/-- The part a character plays at the boundary of a cluster. -/
inductive Class
  | carriageReturn
  | lineFeed
  | control
  | extend
  | joiner
  | regional
  | prepend
  | spacing
  | leading
  | vowel
  | trailing
  | syllable
  | closedSyllable
  | pictograph
  | consonant
  | linker
  | nonJoiner
  | other
  deriving DecidableEq, Repr

/-- The Hangul parts and syllables, by formula. -/
def hangul? (n : Nat) : Option Class :=
  if (0x1100 ≤ n && n ≤ 0x115F) || (0xA960 ≤ n && n ≤ 0xA97C) then some .leading
  else if (0x1160 ≤ n && n ≤ 0x11A7) || (0xD7B0 ≤ n && n ≤ 0xD7C6) || n == 0x16D63
      || (0x16D67 ≤ n && n ≤ 0x16D6A) then some .vowel
  else if (0x11A8 ≤ n && n ≤ 0x11FF) || (0xD7CB ≤ n && n ≤ 0xD7FB) then some .trailing
  else if 0xAC00 ≤ n && n ≤ 0xD7A3 then
    if (n - 0xAC00) % 28 == 0 then some .syllable else some .closedSyllable
  else none

open ClusterTable in
/-- The class of a character.  Printable ASCII needs no table. -/
def classOf (c : Char) : Class :=
  let n := c.toNat
  if n == 0xD then .carriageReturn
  else if n == 0xA then .lineFeed
  else if 0x20 ≤ n && n ≤ 0x7E then .other
  else if n == 0x200D then .joiner
  else if n == 0x200C then .nonJoiner
  else if 0x1F1E6 ≤ n && n ≤ 0x1F1FF then .regional
  else if inRanges control n then .control
  else if inRanges linker n then .linker
  else if inRanges extend n then .extend
  else if inRanges prepend n then .prepend
  else if inRanges spacing n then .spacing
  else if inRanges pictographic n then .pictograph
  else if inRanges consonant n then .consonant
  else (hangul? n).getD .other

/-- What the cluster so far ends with. -/
structure Ending where
  /-- the class of its last character -/
  last : Class
  /-- whether its trailing regional indicators are odd in number -/
  oddRegional : Bool := false
  /-- whether it ends with a pictograph and marks, and then perhaps a joiner -/
  pictograph : Bool := false
  /-- whether it ends with a consonant, marks and linkers -/
  consonant : Bool := false
  /-- whether a linker stands among those -/
  linked : Bool := false

/-- The ending of a cluster of one character. -/
def Ending.single (k : Class) : Ending where
  last := k
  oddRegional := k == .regional
  pictograph := k == .pictograph
  consonant := k == .consonant

/-- The ending after one more character. -/
def Ending.push (e : Ending) (k : Class) : Ending :=
  match k with
  | .extend | .linker =>
    { last := k, pictograph := e.pictograph && e.last != .joiner,
      consonant := e.consonant, linked := e.linked || (e.consonant && k == .linker) }
  | .nonJoiner => { last := k, pictograph := e.pictograph && e.last != .joiner }
  | .joiner =>
    { last := k, pictograph := e.pictograph && e.last != .joiner,
      consonant := e.consonant, linked := e.linked }
  | .regional => { last := k, oddRegional := !e.oddRegional }
  | _ => Ending.single k

/-- Whether a character of class `k` belongs to the cluster that ends with `e`. -/
def joins (e : Ending) (k : Class) : Bool :=
  match e.last, k with
  | .carriageReturn, .lineFeed => true
  | .carriageReturn, _ | .lineFeed, _ | .control, _ => false
  | _, .carriageReturn | _, .lineFeed | _, .control => false
  | _, .extend | _, .linker | _, .nonJoiner | _, .joiner | _, .spacing => true
  | .prepend, _ => true
  | .leading, .leading | .leading, .vowel | .leading, .syllable | .leading, .closedSyllable => true
  | .syllable, .vowel | .syllable, .trailing | .vowel, .vowel | .vowel, .trailing => true
  | .closedSyllable, .trailing | .trailing, .trailing => true
  | .joiner, .pictograph => e.pictograph
  | .regional, .regional => e.oddRegional
  | _, .consonant => e.consonant && e.linked
  | _, _ => false

/-- What belongs to the cluster before a text, which ends with `e`, and the clusters of the rest. -/
def clustersAfter (e : Ending) : List Char → List Char × List (List Char)
  | [] => ([], [])
  | c :: s =>
    if joins e (classOf c) then
      let (more, rest) := clustersAfter (e.push (classOf c)) s
      (c :: more, rest)
    else
      let (more, rest) := clustersAfter (.single (classOf c)) s
      ([], (c :: more) :: rest)

/-- A text cut into its clusters. -/
def clusters (s : List Char) : List (List Char) :=
  match s with
  | [] => []
  | c :: s =>
    let (more, rest) := clustersAfter (.single (classOf c)) s
    (c :: more) :: rest

/-- The clusters after an ending, with what still belongs to it, are the text. -/
theorem flatten_clustersAfter (s : List Char) (e : Ending) :
    (clustersAfter e s).1 ++ (clustersAfter e s).2.flatten = s := by
  induction s generalizing e with
  | nil => rfl
  | cons c s ih =>
    simp only [clustersAfter]
    split
    · simp [ih]
    · simp [ih]

/-- Cutting a text loses nothing. -/
@[simp] theorem flatten_clusters (s : List Char) : (clusters s).flatten = s := by
  cases s with
  | nil => rfl
  | cons c s => simp [clusters, flatten_clustersAfter]

end Phrasebook.Text

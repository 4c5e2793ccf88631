import Phrasebook.Text.Cluster

namespace Phrasebook.Plural

/-!
# Bars

A template is cut into branches at single bars `|`; a doubled bar stands for one bar of the text.

* `cut`: a sequence of clusters cut at the last bar of each odd run that something follows.
* `pieces`: a template cut into the texts of its branches.
* `unescape`: a text with each doubled bar made single.
-/

/-- A bar that is a cluster of its own. -/
def bar : List Char := ['|']

/-- Whether a sequence of clusters starts with something other than a bar. -/
def startsPlain : List (List Char) → Bool
  | [] => false
  | g :: _ => g != bar

/-- The text of one more cluster put in front of the first piece. -/
def onFirst (g : List Char) : List (List Char) → List (List Char)
  | [] => [g]
  | p :: ps => (g ++ p) :: ps

/-- The pieces of a sequence of clusters that `run` bars stand before. -/
def cutAfter (run : Nat) : List (List Char) → List (List Char)
  | [] => [[]]
  | g :: gs =>
    if g = bar then
      if startsPlain gs && (run + 1) % 2 == 1 then [] :: cutAfter (run + 1) gs
      else onFirst g (cutAfter (run + 1) gs)
    else onFirst g (cutAfter 0 gs)

/-- A sequence of clusters cut into pieces: at a bar that is the last of a run of odd length, if
    another cluster follows the run. -/
def cut (gs : List (List Char)) : List (List Char) :=
  cutAfter 0 gs

/-- A template cut into the texts of its branches. -/
def pieces (template : List Char) : List (List Char) :=
  cut (Text.clusters template)

/-- A text with each doubled bar made single. -/
def unescape : List Char → List Char
  | [] => []
  | '|' :: '|' :: s => '|' :: unescape s
  | c :: s => c :: unescape s

/-- A text with each bar doubled. -/
def escape (s : List Char) : List Char :=
  s.flatMap fun c => if c = '|' then ['|', '|'] else [c]

/-- Reading a doubled bar as one undoes the doubling. -/
@[simp] theorem unescape_escape (s : List Char) : unescape (escape s) = s := by
  induction s with
  | nil => rfl
  | cons c s ih =>
    by_cases h : c = '|'
    · subst h
      simpa [escape, unescape] using ih
    · have hs : unescape (c :: escape s) = c :: unescape (escape s) := by
        rw [unescape]
        intro t hc
        exact absurd hc h
      simpa [escape, h] using hs.trans (by rw [ih])

end Phrasebook.Plural

namespace Phrasebook

/-!
# Paths

Paths with forward slashes.

* `Path.parts`: the names in a path.
* `Path.join`: a directory and a name as one normal path.
-/

namespace Path

/-- The names between the slashes of a path, empty ones and single dots left out. -/
def parts (path : List Char) : List (List Char) :=
  (path.splitOnP (· == '/')).filter fun p => p ≠ [] ∧ p ≠ ['.']

/-- Two dots, which lead to the directory above. -/
def up : List Char := ['.', '.']

/-- One more name after a normal path, whose names stand in reverse. -/
def push (absolute : Bool) (before : List (List Char)) (name : List Char) : List (List Char) :=
  if name = up then
    match before with
    | p :: before => if p = up then name :: p :: before else before
    | [] => if absolute then [] else [name]
  else name :: before

/-- A path without needless names: no empty ones, no single dots, and two dots only at the start
    of a relative path.  A slash at the end is kept. -/
def normalize (path : List Char) : List Char :=
  let absolute := path.head? == some '/'
  let names := ((parts path).foldl (push absolute) []).reverse
  let body := ['/'].intercalate names
  let tail := if path.getLast? == some '/' then ['/'] else []
  if absolute then '/' :: (if body.isEmpty then [] else body ++ tail)
  else if body.isEmpty then '.' :: tail
  else body ++ tail

/-- A directory and a name as one path. -/
def join (dir name : String) : String :=
  let whole :=
    if dir.isEmpty then name.toList
    else if name.isEmpty then dir.toList
    else dir.toList ++ '/' :: name.toList
  if whole.isEmpty then "." else String.ofList (normalize whole)

example : join "./t/nested/.." "a.en.json" = "t/a.en.json" := by decide +kernel

end Path

end Phrasebook

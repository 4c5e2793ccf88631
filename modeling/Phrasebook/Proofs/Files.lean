import Phrasebook.Files
import Phrasebook.Proofs.Dict

namespace Phrasebook.Files

/-!
# Where paths lead

Where the nodes of a tree are recorded in another order, the same places are reached and the same
texts are read; only the order of listings changes.  A path that starts with a slash leads to the
same place from every directory.

* `Reordered`: a tree with the nodes of another one; `Reordered.node?`: the same stands at each
  place.
* `resolve_congr`: paths lead to the same places.
* `Reordered.read`, `Reordered.list`: what is read and listed.
* `IsAbsolute`, `resolve_of_isAbsolute`: paths that lead on from the top.
-/

variable {fs fs' : Files}

/-- One tree has the nodes of the other, in another order. -/
structure Reordered (fs' fs : Files) : Prop where
  nodes : fs'.nodes.entries.Perm fs.nodes.entries
  home : fs'.home = fs.home

/-- The same stands at each place, whatever the order of the nodes. -/
theorem Reordered.node? (h : fs'.Reordered fs) (place : Place) :
    fs'.node? place = fs.node? place := by
  rw [Files.node?, Files.node?, Dict.get?, Dict.get?, lookupEntry_perm h.nodes fs.nodes.nodup]

/-- A way through a tree depends on what stands at its places alone. -/
theorem follow_congr (h : ∀ place, fs'.node? place = fs.node? place) (make : Bool)
    (fuel links : Nat) (here : Place) (names : List (List Char)) :
    fs'.follow make fuel links here names = fs.follow make fuel links here names := by
  induction fuel generalizing links here names with
  | zero => cases names <;> rfl
  | succ fuel ih =>
    cases names with
    | nil => rfl
    | cons name names =>
      simp only [follow, h, ih]

/-- Paths lead to the same places where the same stands at each place and work is done in the same
    directory. -/
theorem resolve_congr (h : ∀ place, fs'.node? place = fs.node? place) (hhome : fs'.home = fs.home)
    (path : String) : fs'.resolve path = fs.resolve path := by
  rw [resolve, resolve, hhome]
  simp only [follow_congr h]

/-- The same texts are read, whatever the order of the nodes. -/
theorem Reordered.read (h : fs'.Reordered fs) (path : String) : fs'.read path = fs.read path := by
  have hnode := h.node?
  rw [Files.read, Files.read, resolve_congr hnode h.home]
  simp only [hnode]

/-- The same names are listed, in another order. -/
theorem Reordered.list (h : fs'.Reordered fs) {path : String} {entries : List Entry}
    (hlist : fs.list path = .ok entries) :
    ∃ entries', fs'.list path = .ok entries' ∧ entries'.Perm entries := by
  have hnode := h.node?
  rw [Files.list] at hlist ⊢
  rw [resolve_congr hnode h.home]
  cases hplace : fs.resolve path with
  | error f =>
    rw [hplace] at hlist
    exact absurd hlist (by simp)
  | ok place =>
    rw [hplace] at hlist
    simp only [hnode] at hlist ⊢
    split at hlist
    · refine ⟨_, rfl, ?_⟩
      rw [← Except.ok.inj hlist]
      exact h.nodes.filterMap _
    · exact absurd hlist (by simp)
    · exact absurd hlist (by simp)

/-! ### Paths from the top -/

/-- A path that starts with a slash. -/
def IsAbsolute (path : String) : Prop :=
  path.toList.head? = some '/'

/-- An absolute path starts at the root. -/
theorem base_of_isAbsolute {path : String} (h : IsAbsolute path) (here : Place) :
    base here path.toList = [] := by
  rw [base, h]
  rfl

/-- A path that starts with a slash leads to the same place from every directory. -/
theorem resolve_of_isAbsolute {path : String} (h : IsAbsolute path) (home : Place) :
    Files.resolve { fs with home := home } path = fs.resolve path := by
  have hnode : ∀ place, Files.node? { fs with home := home } place = fs.node? place :=
    fun _ => rfl
  rw [resolve, resolve, base_of_isAbsolute h, base_of_isAbsolute h, follow_congr hnode]

/-- What is listed behind such a path does not depend on the directory to work in. -/
theorem list_of_isAbsolute {path : String} (h : IsAbsolute path) (home : Place) :
    Files.list { fs with home := home } path = fs.list path := by
  rw [list, list, resolve_of_isAbsolute h]
  rfl

/-- What is read behind such a path does not depend on the directory to work in. -/
theorem read_of_isAbsolute {path : String} (h : IsAbsolute path) (home : Place) :
    Files.read { fs with home := home } path = fs.read path := by
  rw [read, read, resolve_of_isAbsolute h]
  rfl

end Phrasebook.Files

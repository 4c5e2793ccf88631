import Mathlib.Data.List.Basic
import Phrasebook.Proofs.Files
import Phrasebook.Proofs.Path

namespace Phrasebook.Files

/-!
# The names in a tree

No name in a tree has a slash in it, however the tree was made, and no name is listed twice.

* `WellNamed`: a tree whose names have no slash.
* `slashFree_follow`: where every way through a tree leads.
* `WellNamed.put`, `WellNamed.remove`: trees stay well named when they change; `Built.wellNamed`:
  every tree that comes to be is well named.
* `nodup_of_list`, `WellNamed.slash_not_mem_of_list`: the names of a directory.
-/

/-- Names without slashes. -/
def SlashFree (names : List (List Char)) : Prop :=
  ∀ name ∈ names, '/' ∉ name

/-- No name in the tree has a slash in it. -/
def WellNamed (fs : Files) : Prop :=
  ∀ place ∈ fs.nodes.keys, SlashFree place

/-- Two paths without a slash in a name, one after the other. -/
theorem SlashFree.append {names others : List (List Char)} (h : SlashFree names)
    (hothers : SlashFree others) : SlashFree (names ++ others) :=
  fun name hname => (List.mem_append.1 hname).elim (h name) (hothers name)

/-- Fewer names have no slash either. -/
theorem SlashFree.of_subset {names others : List (List Char)} (h : SlashFree names)
    (hsubset : others ⊆ names) : SlashFree others :=
  fun name hname => h name (hsubset hname)

theorem slashFree_singleton {name : List Char} : SlashFree [name] ↔ '/' ∉ name := by
  simp [SlashFree]

/-- The parts of a path are cut at its slashes. -/
theorem slashFree_parts (path : List Char) : SlashFree (Path.parts path) :=
  fun _ hname => Path.slash_not_mem_of_mem_parts hname

theorem slashFree_dot : SlashFree [dot] := by
  rw [slashFree_singleton]
  decide

/-- The steps of a path have no slash in a name. -/
theorem slashFree_steps (path : List Char) : SlashFree (steps path) := by
  refine SlashFree.append (fun name hname => ?_) ?_
  · rw [← List.splitOn_eq_splitOnP] at hname
    exact Path.slash_not_mem_of_mem_splitOn (List.mem_filter.1 hname).1
  · split
    · exact slashFree_dot
    · exact fun _ hname => absurd hname List.not_mem_nil

theorem slashFree_nil : SlashFree [] :=
  fun _ hname => absurd hname List.not_mem_nil

/-- The place where a path starts has no slash in a name. -/
theorem slashFree_base {here : Place} (h : SlashFree here) (path : List Char) :
    SlashFree (base here path) := by
  rw [base]
  split
  · exact slashFree_nil
  · exact h

/-! ### Ways -/

/-- A way leads to names without slashes, links included. -/
theorem slashFree_follow {fs : Files} {make : Bool} {fuel links : Nat} {here place : Place}
    {names : List (List Char)} (hhere : SlashFree here) (hnames : SlashFree names)
    (h : fs.follow make fuel links here names = .ok place) : SlashFree place := by
  -- the names to go are those of the path, and of every link that was followed
  induction fuel generalizing links here names with
  | zero =>
    cases names with
    | nil => exact Except.ok.inj h ▸ hhere
    | cons name names => exact absurd h (by simp [follow])
  | succ fuel ih =>
    cases names with
    | nil => exact Except.ok.inj h ▸ hhere
    | cons name names =>
      have hname : SlashFree [name] := hnames.of_subset (by simp)
      have hrest : SlashFree names := hnames.of_subset (List.subset_cons_self name names)
      have hnext : SlashFree (here ++ [name]) := hhere.append hname
      simp only [follow] at h
      split at h
      · exact ih hhere hrest h
      · split at h
        · exact ih (hhere.of_subset (List.dropLast_subset here)) hrest h
        · split at h
          · exact absurd h (by simp)
          · split at h
            · split at h
              · exact Except.ok.inj h ▸ hnext
              · exact absurd h (by simp)
            · split at h
              · exact Except.ok.inj h ▸ hnext
              · exact absurd h (by simp)
            · exact ih hnext hrest h
            · split at h
              · exact absurd h (by simp)
              · exact ih (slashFree_base hhere _) ((slashFree_steps _).append hrest) h

/-! ### Changes -/

/-- Making directories leaves the working directory as it is. -/
theorem home_makeAll {path : String} {fs fs' : Files} {here place : Place}
    {names : List (List Char)} (hmade : makeAll path fs here names = .ok (fs', place)) :
    fs'.home = fs.home := by
  induction names generalizing fs here with
  | nil =>
    obtain ⟨rfl, -⟩ := Prod.mk.inj (Except.ok.inj hmade)
    rfl
  | cons name names ih =>
    simp only [makeAll] at hmade
    split at hmade
    · split at hmade
      · exact ih hmade
      · exact absurd hmade (by simp)
    · split at hmade
      · exact absurd hmade (by simp)
      · have hrest := ih hmade
        exact hrest
    · exact absurd hmade (by simp)

/-- So does making one with those above it. -/
theorem home_withDirectory {path : String} {fs fs' : Files} {place : Place}
    (hmade : fs.withDirectory path = .ok (fs', place)) : fs'.home = fs.home := by
  rw [withDirectory] at hmade
  split at hmade
  · exact absurd hmade (by simp)
  · exact home_makeAll hmade

/-- What puts a node into a tree: after the directory for it is made, the node goes under its name, or
    where links lead from there; a directory is made like the one above it. -/
theorem put_cases {path : String} {n : FileNode} {fs fs' : Files}
    (hput : fs.put path n = .ok fs') :
    let name := (Path.parts (Path.normalize path.toList)).getLast?.getD dot
    ∃ made dir, fs.withDirectory (directoryPart path) = .ok (made, dir) ∧
      ((∃ place, (made.follow true wayLimit linkLimit dir [name] = .ok place ∨
          place = dir ++ [name]) ∧ fs' = { made with nodes := made.nodes.insert place n }) ∨
        ∃ place, made.withDirectory path = .ok (fs', place)) := by
  intro name
  simp only [put, bind, Except.bind] at hput
  cases hmade : fs.withDirectory (directoryPart path) with
  | error f =>
    rw [hmade] at hput
    exact absurd hput (by simp)
  | ok above =>
    obtain ⟨made, dir⟩ := above
    refine ⟨made, dir, rfl, ?_⟩
    simp only [hmade] at hput
    split at hput
    · exact absurd hput (by simp [throw, throwThe, MonadExceptOf.throw])
    · cases n with
      | file content =>
        simp only at hput
        split at hput
        · exact absurd hput (by simp)
        · next there hfollow =>
          split at hput
          · exact absurd hput (by simp)
          · exact Or.inl ⟨there, Or.inl hfollow, (Except.ok.inj hput).symm⟩
      | directory =>
        cases hagain : made.withDirectory path with
        | error f =>
          rw [hagain] at hput
          exact absurd hput (by simp [Except.map])
        | ok again =>
          rw [hagain] at hput
          obtain rfl : again.1 = fs' := Except.ok.inj hput
          exact Or.inr ⟨again.2, rfl⟩
      | link target =>
        simp only at hput
        split at hput
        · exact absurd hput (by simp)
        · split at hput
          · exact Or.inl ⟨_, Or.inr rfl, (Except.ok.inj hput).symm⟩
          · exact absurd hput (by simp)

/-- Work is done in the same directory after something is put into the tree. -/
theorem home_put {path : String} {n : FileNode} {fs fs' : Files}
    (hput : fs.put path n = .ok fs') : fs'.home = fs.home := by
  obtain ⟨made, dir, hmade, ⟨place, -, rfl⟩ | ⟨place, hagain⟩⟩ := put_cases hput
  · have hhome : made.home = fs.home := home_withDirectory hmade
    exact hhome
  · exact (home_withDirectory hagain).trans (home_withDirectory hmade)

namespace WellNamed

variable {fs fs' : Files}

/-- A node at a place without slashes can be put into a tree. -/
theorem insert (h : fs.WellNamed) {place : Place} (hplace : SlashFree place) (n : FileNode) :
    WellNamed { fs with nodes := fs.nodes.insert place n } := by
  intro place' hplace'
  simp only [Dict.keys_insert] at hplace'
  split at hplace'
  · exact h place' hplace'
  · rcases List.mem_append.1 hplace' with hplace' | hplace'
    · exact h place' hplace'
    · exact List.mem_singleton.1 hplace' ▸ hplace

/-- Directories with proper names leave a tree well named. -/
theorem makeAll {path : String} {here place : Place} {names : List (List Char)}
    (h : fs.WellNamed) (hhere : SlashFree here) (hnames : SlashFree names)
    (hmade : Files.makeAll path fs here names = .ok (fs', place)) :
    fs'.WellNamed ∧ SlashFree place := by
  induction names generalizing fs here with
  | nil =>
    obtain ⟨rfl, rfl⟩ := Prod.mk.inj (Except.ok.inj hmade)
    exact ⟨h, hhere⟩
  | cons name names ih =>
    have hname : SlashFree [name] := hnames.of_subset (by simp)
    have hrest : SlashFree names := hnames.of_subset (List.subset_cons_self name names)
    have hnext : SlashFree (here ++ [name]) := hhere.append hname
    simp only [Files.makeAll] at hmade
    split at hmade
    · next there hfollow =>
      split at hmade
      · exact ih h (slashFree_follow hhere hname hfollow) hrest hmade
      · exact absurd hmade (by simp)
    · split at hmade
      · exact absurd hmade (by simp)
      · exact ih (h.insert hnext .directory) hnext hrest hmade
    · exact absurd hmade (by simp)

/-- So does one directory with those above it. -/
theorem withDirectory {path : String} {place : Place} (h : fs.WellNamed)
    (hhome : SlashFree fs.home) (hmade : fs.withDirectory path = .ok (fs', place)) :
    fs'.WellNamed ∧ SlashFree place := by
  rw [Files.withDirectory] at hmade
  split at hmade
  · exact absurd hmade (by simp)
  · exact makeAll h (slashFree_base hhome _) (slashFree_parts _) hmade

/-- A tree stays well named when something is put into it. -/
theorem put {path : String} {n : FileNode} (h : fs.WellNamed) (hhome : SlashFree fs.home)
    (hput : fs.put path n = .ok fs') : fs'.WellNamed := by
  -- the last part of a normalized path is a name, or `.` where there is none
  have hname : SlashFree [(Path.parts (Path.normalize path.toList)).getLast?.getD dot] := by
    cases hlast : (Path.parts (Path.normalize path.toList)).getLast? with
    | none => exact slashFree_dot
    | some name =>
      exact slashFree_singleton.2 (slashFree_parts _ name (List.mem_of_getLast? hlast))
  obtain ⟨made, dir, hmade, hcases⟩ := put_cases hput
  obtain ⟨hnamed, hdir⟩ := h.withDirectory hhome hmade
  rcases hcases with ⟨place, hfollow | rfl, rfl⟩ | ⟨place, hagain⟩
  · exact hnamed.insert (slashFree_follow hdir hname hfollow) n
  · exact hnamed.insert (hdir.append hname) n
  · have hhome' : SlashFree made.home := home_withDirectory hmade ▸ hhome
    exact (hnamed.withDirectory hhome' hagain).1

/-- A directory to work in can be made under any names without slashes. -/
theorem within {home : Place} (h : SlashFree home) : (Files.within home).WellNamed := by
  -- each directory on the way has some of the names of the last one
  suffices ∀ (ns : List Nat) (fs : Files), fs.WellNamed → WellNamed
      { fs with nodes := ns.foldl (fun nodes n => nodes.insert (home.take (n + 1)) .directory)
                  fs.nodes } from
    this (List.range home.length) { home := home } fun _ hplace => absurd hplace List.not_mem_nil
  intro ns
  induction ns with
  | nil => exact fun fs hfs => hfs
  | cons n ns ih =>
    intro fs hfs
    have hplace : SlashFree (home.take (n + 1)) := h.of_subset (List.take_subset (n + 1) home)
    exact ih _ (hfs.insert hplace .directory)

/-- A tree stays well named when something is taken out of it. -/
theorem remove (h : fs.WellNamed) (path : String) : (fs.remove path).WellNamed := by
  intro place hplace
  have hsublist : (fs.remove path).nodes.entries.Sublist fs.nodes.entries := List.filter_sublist
  exact h place ((hsublist.map Prod.fst).subset hplace)

end WellNamed

/-- A tree that comes from a directory to work in by putting things in and taking things out. -/
inductive Built : Files → Prop
  | within {home : Place} (h : SlashFree home) : Built (Files.within home)
  | put {fs fs' : Files} {path : String} {n : FileNode} (before : Built fs)
      (h : fs.put path n = .ok fs') : Built fs'
  | remove {fs : Files} (before : Built fs) (path : String) : Built (fs.remove path)

/-- The working directory of a tree that was built has no slash in a name. -/
theorem Built.home {fs : Files} (h : Built fs) : SlashFree fs.home := by
  induction h with
  | within hhome => exact hhome
  | put _ hput ih => exact home_put hput ▸ ih
  | remove _ path ih => exact ih

/-- Every tree that comes to be is well named. -/
theorem Built.wellNamed {fs : Files} (h : Built fs) : fs.WellNamed := by
  induction h with
  | within hhome => exact WellNamed.within hhome
  | put before hput ih => exact ih.put before.home hput
  | remove _ path ih => exact ih.remove path

/-! ### Listings -/

/-- The names in a directory are those that stand in the tree behind its place. -/
theorem entries_of_list {fs : Files} {path : String} {entries : List Entry}
    (h : fs.list path = .ok entries) :
    ∃ dir : Place, entries = fs.nodes.entries.filterMap (entryIn? dir) := by
  rw [list] at h
  split at h
  · exact absurd h (by simp)
  · next place _ =>
    split at h
    · exact ⟨place, (Except.ok.inj h).symm⟩
    · exact absurd h (by simp)
    · exact absurd h (by simp)

/-- An entry of a directory is a place in it. -/
theorem place_of_entryIn? {dir : Place} {e : Place × FileNode} {entry : Entry}
    (h : entryIn? dir e = some entry) : e.1 = dir ++ [entry.name.toList] := by
  rw [entryIn?] at h
  split at h
  · next hdir =>
    obtain ⟨name, hname, rfl⟩ := Option.map_eq_some_iff.1 h
    rw [String.toList_ofList, ← hdir.1]
    exact (List.dropLast_append_getLast? name hname).symm
  · exact absurd h (by simp)

/-- No name is listed twice. -/
theorem nodup_of_list {fs : Files} {path : String} {entries : List Entry}
    (h : fs.list path = .ok entries) : (entries.map Entry.name).Nodup := by
  obtain ⟨dir, rfl⟩ := entries_of_list h
  refine List.pairwise_map.2 (List.pairwise_filterMap.2 ?_)
  refine (List.pairwise_map.1 fs.nodes.nodup).imp
    fun {e e'} hne entry hentry entry' hentry' heq => ?_
  -- one name in one directory is one place
  rw [place_of_entryIn? hentry, place_of_entryIn? hentry', heq] at hne
  exact hne rfl

/-- The names that are listed in a well named tree have no slash. -/
theorem WellNamed.slash_not_mem_of_list {fs : Files} (hfs : fs.WellNamed) {path : String}
    {entries : List Entry} (h : fs.list path = .ok entries) {entry : Entry}
    (hentry : entry ∈ entries) : '/' ∉ entry.name.toList := by
  obtain ⟨dir, rfl⟩ := entries_of_list h
  obtain ⟨e, he, hentry⟩ := List.mem_filterMap.1 hentry
  refine hfs e.1 (List.mem_map_of_mem he) _ ?_
  rw [place_of_entryIn? hentry]
  exact List.mem_append_right dir List.mem_cons_self

end Phrasebook.Files

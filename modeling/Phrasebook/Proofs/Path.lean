import Phrasebook.Path

namespace Phrasebook.Path

/-!
# Joining paths

A name without slashes stays the last name of the path that it is joined to a directory in, so that
the files of one directory have paths of their own.

* `Plain`: a name that leads to something in its directory.
* `EndsIn`: the last name of a path; `EndsIn.unique`: there is only one.
* `endsIn_normalize`, `endsIn_join`: the last name stays.
* `join_inj`: two names of a directory do not make one path.
* `slash_not_mem_of_mem_splitOn`: the names between slashes have no slash.
-/

/-- A name that leads to something in its directory. -/
structure Plain (name : List Char) : Prop where
  ne_nil : name ≠ []
  ne_dot : name ≠ ['.']
  ne_up : name ≠ up
  noSlash : '/' ∉ name

/-- A path is a name, or has that name behind its last slash. -/
def EndsIn (path name : List Char) : Prop :=
  path = name ∨ ∃ above, path = above ++ '/' :: name

/-- No slash is left in what is cut at slashes. -/
theorem slash_not_mem_of_mem_splitOn {path name : List Char} (h : name ∈ path.splitOn '/') :
    '/' ∉ name := by
  rw [List.splitOn_eq_splitOnP] at h
  induction path generalizing name with
  | nil =>
    rw [List.splitOnP_nil, List.mem_singleton] at h
    rw [h]
    exact List.not_mem_nil
  | cons c path ih =>
    rw [List.splitOnP_cons_eq_if_modifyHead] at h
    split at h
    · rcases List.mem_cons.1 h with rfl | h
      · exact List.not_mem_nil
      · exact ih h
    · next hc =>
      -- the first name gets the character, which is no slash
      cases hsplit : path.splitOnP (· == '/') with
      | nil => exact absurd hsplit (List.splitOnP_ne_nil _ _)
      | cons first rest =>
        rw [hsplit] at h ih
        rcases List.mem_cons.1 h with rfl | h
        · rw [List.mem_cons, not_or]
          exact ⟨fun heq => hc (beq_iff_eq.2 heq.symm), ih List.mem_cons_self⟩
        · exact ih (List.mem_cons_of_mem first h)

/-- No part of a path has a slash. -/
theorem slash_not_mem_of_mem_parts {path name : List Char} (h : name ∈ parts path) :
    '/' ∉ name := by
  rw [parts, ← List.splitOn_eq_splitOnP] at h
  exact slash_not_mem_of_mem_splitOn (List.mem_filter.1 h).1

/-! ### The last name -/

/-- The names of a path are those above its last name, and that name. -/
theorem EndsIn.exists_splitOn {path name : List Char} (h : EndsIn path name) (hname : '/' ∉ name) :
    ∃ names, path.splitOn '/' = names ++ [name] := by
  rcases h with rfl | ⟨above, rfl⟩
  · exact ⟨[], List.splitOn_eq_singleton hname⟩
  · exact ⟨above.splitOn '/', by
      rw [List.splitOn_append_cons_self, List.splitOn_eq_singleton hname]⟩

/-- A path has one last name. -/
theorem EndsIn.unique {path a b : List Char} (ha : EndsIn path a) (hb : EndsIn path b)
    (hslash : '/' ∉ a) (hslash' : '/' ∉ b) : a = b := by
  obtain ⟨names, hnames⟩ := ha.exists_splitOn hslash
  obtain ⟨names', hnames'⟩ := hb.exists_splitOn hslash'
  exact (List.append_inj' (hnames.symm.trans hnames') rfl).2 |> List.singleton_inj.1

/-- Names joined by slashes end in the last one. -/
theorem endsIn_intercalate (names : List (List Char)) (name : List Char) :
    EndsIn (['/'].intercalate (names ++ [name])) name := by
  induction names with
  | nil => exact Or.inl (by simp [List.intercalate])
  | cons first names ih =>
    have hrest : ['/'].intercalate (first :: names ++ [name])
        = first ++ '/' :: ['/'].intercalate (names ++ [name]) := by
      rw [List.cons_append, List.intercalate_cons_of_ne_nil (by simp), List.append_assoc]
      rfl
    rw [hrest]
    rcases ih with heq | ⟨above, heq⟩
    · exact Or.inr ⟨first, by rw [heq]⟩
    · exact Or.inr ⟨first ++ '/' :: above, by rw [heq]; simp⟩

/-- A slash in front does not change how a path ends. -/
theorem EndsIn.cons {path name : List Char} (h : EndsIn path name) : EndsIn ('/' :: path) name := by
  rcases h with rfl | ⟨above, rfl⟩
  · exact Or.inr ⟨[], rfl⟩
  · exact Or.inr ⟨'/' :: above, rfl⟩

/-- A path that ends in a name is not empty. -/
theorem EndsIn.ne_nil {path name : List Char} (h : EndsIn path name) (hname : name ≠ []) :
    path ≠ [] := by
  rcases h with rfl | ⟨above, rfl⟩
  · exact hname
  · simp

/-- A path does not end in a slash where it ends in a name. -/
theorem EndsIn.getLast?_ne {path name : List Char} (h : EndsIn path name) (hname : Plain name) :
    path.getLast? ≠ some '/' := by
  intro hlast
  have hmem : ∀ above : List Char, (above ++ name).getLast? = some '/' → '/' ∈ name := by
    intro above h
    obtain ⟨c, hc⟩ := Option.isSome_iff_exists.1 (List.getLast?_isSome.2 hname.ne_nil)
    rw [List.getLast?_append, hc, Option.some_or] at h
    exact List.mem_of_getLast? (hc.trans h)
  rcases h with rfl | ⟨above, rfl⟩
  · exact hname.noSlash (hmem [] hlast)
  · rw [List.append_cons] at hlast
    exact hname.noSlash (hmem (above ++ ['/']) hlast)

/-- Making a path normal keeps its last name. -/
theorem endsIn_normalize {path name : List Char} (h : EndsIn path name) (hname : Plain name) :
    EndsIn (normalize path) name := by
  have hparts : ∃ names, parts path = names ++ [name] := by
    obtain ⟨names, hnames⟩ := h.exists_splitOn hname.noSlash
    refine ⟨names.filter fun p => p ≠ [] ∧ p ≠ ['.'], ?_⟩
    rw [parts, ← List.splitOn_eq_splitOnP, hnames, List.filter_append,
      List.filter_cons_of_pos (by simp [hname.ne_nil, hname.ne_dot]), List.filter_nil]
  obtain ⟨names, hnames⟩ := hparts
  have hpush : ∀ absolute before, push absolute before name = name :: before :=
    fun _ _ => if_neg hname.ne_up
  -- the name is pushed last, and takes nothing away
  have hbody : ∀ absolute, EndsIn (['/'].intercalate
      ((parts path).foldl (push absolute) []).reverse) name := by
    intro absolute
    rw [hnames, List.foldl_append, List.foldl_cons, List.foldl_nil, hpush,
      List.reverse_cons]
    exact endsIn_intercalate _ name
  have hfull : ∀ absolute, (['/'].intercalate
      ((parts path).foldl (push absolute) []).reverse).isEmpty = false :=
    fun absolute => List.isEmpty_eq_false_iff.2 ((hbody absolute).ne_nil hname.ne_nil)
  have htail : (path.getLast? == some '/') = false := beq_eq_false_iff_ne.2 (h.getLast?_ne hname)
  simp only [normalize, hfull, htail, Bool.false_eq_true, if_false, List.append_nil]
  split
  · exact (hbody _).cons
  · exact hbody _

/-- The name that is joined to a directory is the last one of the path. -/
theorem endsIn_join (dir : String) {name : String} (h : Plain name.toList) :
    EndsIn (join dir name).toList name.toList := by
  have hwhole : EndsIn (if dir.isEmpty then name.toList else if name.isEmpty then dir.toList
      else dir.toList ++ '/' :: name.toList) name.toList := by
    have hname : name.isEmpty = false := by
      rw [Bool.eq_false_iff]
      exact fun hempty => h.ne_nil (by rw [String.isEmpty_iff.1 hempty]; rfl)
    rw [hname]
    split
    · exact Or.inl rfl
    · exact Or.inr ⟨dir.toList, rfl⟩
  have hfull := List.isEmpty_eq_false_iff.2 (hwhole.ne_nil h.ne_nil)
  simp only [join, hfull, Bool.false_eq_true, if_false, String.toList_ofList]
  exact endsIn_normalize hwhole h

/-- Two names of a directory do not make one path. -/
theorem join_inj {dir a b : String} (ha : Plain a.toList) (hb : Plain b.toList)
    (h : join dir a = join dir b) : a = b :=
  String.toList_inj.1 ((endsIn_join dir ha).unique (h ▸ endsIn_join dir hb) ha.noSlash hb.noSlash)

end Phrasebook.Path

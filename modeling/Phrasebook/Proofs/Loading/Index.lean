import Mathlib.Data.List.Induction
import Mathlib.Data.List.Nodup
import Phrasebook.Proofs.Catalogue.Views
import Phrasebook.Proofs.FileNames
import Phrasebook.Proofs.Loading.Directory

namespace Phrasebook

/-!
# The index of a directory

The index of the message files of a directory and the bag that they make are built apart, and tell
of the same files.

* `FileIndex.paths?`, `FileIndex.rows`: the paths under a tag and a domain, and all that is in an
  index.
* `FileIndex.paths?_ofFiles`, `FileIndex.rows_ofFiles`, `FileIndex.mem_keys_ofFiles`: what the index
  of a list of files has.
* `MessageFile.plain_of_ofName`: a message file has a name of its own in its directory.
* `Directory.Lists`: the names of the files of one locale and domain, in ascending order.
* `fileIndex_agrees`: the index of a directory, its faults, and how it stands to the bag.
-/

/-! ### What is in an index -/

/-- A file as an index has it: the tag of its locale, its domain and its path. -/
def MessageFile.row (file : MessageFile) : String × String × String :=
  (file.locale.tag, file.domain, file.path)

namespace FileIndex

/-- The paths under a tag and a domain. -/
def paths? (index : FileIndex) (tag domain : String) : Option (List String) :=
  (index.get? tag).bind fun domains => domains.get? domain

/-- The paths under a tag and a domain; none where there is no file. -/
def paths (index : FileIndex) (tag domain : String) : List String :=
  (index.paths? tag domain).getD []

/-- The rows of one tag. -/
def rowsOf (t : String × Dict String (List String)) : List (String × String × String) :=
  t.2.entries.flatMap fun d => d.2.map fun path => (t.1, d.1, path)

/-- All that is in an index: each path with its tag and its domain. -/
def rows (index : FileIndex) : List (String × String × String) :=
  index.entries.flatMap rowsOf

/-- The paths of the files of a tag and a domain. -/
def pathsOf (files : List MessageFile) (tag domain : String) : List String :=
  (files.filter fun file => file.locale.tag = tag ∧ file.domain = domain).map MessageFile.path

/-! ### One file -/

/-- The paths of each tag and domain after a file is put in. -/
theorem paths?_insert (index : FileIndex) (file : MessageFile) (tag domain : String) :
    (index.insert file).paths? tag domain
      = if file.locale.tag = tag ∧ file.domain = domain then
          some ((index.paths? tag domain).getD [] ++ [file.path])
        else index.paths? tag domain := by
  rw [paths?, insert, Dict.get?_insert]
  by_cases htag : file.locale.tag = tag
  · subst htag
    rw [if_pos rfl, Option.bind_some, Dict.get?_insert]
    have hheld : ((index.get? file.locale.tag).getD Dict.empty).get? domain
        = index.paths? file.locale.tag domain := by
      rw [paths?]
      cases index.get? file.locale.tag <;> rfl
    by_cases hdomain : file.domain = domain
    · subst hdomain
      rw [if_pos rfl, if_pos ⟨rfl, rfl⟩, hheld]
    · rw [if_neg (Ne.symm hdomain), if_neg fun h => hdomain h.2, hheld]
  · rw [if_neg (Ne.symm htag), if_neg fun h => htag h.1]
    rfl

/-- The tags after a file is put in. -/
theorem mem_keys_insert (index : FileIndex) (file : MessageFile) (tag : String) :
    tag ∈ (index.insert file).keys ↔ tag ∈ index.keys ∨ file.locale.tag = tag := by
  rw [← Dict.contains_iff, ← Dict.contains_iff, Dict.contains, Dict.contains, insert,
    Dict.get?_insert]
  by_cases htag : file.locale.tag = tag
  · simp [htag]
  · simp [htag, Ne.symm htag]

/-- What entries spread out to when a value is put under a key: what is new in the value comes on
    top. -/
theorem flatMap_putEntry {κ : Type u} {α : Type v} {β : Type w} [DecidableEq κ] {f : κ × α → List β}
    {k : κ} {a : α} {es : List (κ × α)} (new : List β)
    (h : (f (k, a)).Perm (new ++ ((lookupEntry k es).map fun old => f (k, old)).getD [])) :
    ((putEntry k a es).flatMap f).Perm (new ++ es.flatMap f) := by
  induction es with
  | nil => simpa [putEntry, lookupEntry] using h
  | cons e es ih =>
    by_cases he : e.1 = k
    · subst he
      rw [putEntry, if_pos rfl, List.flatMap_cons, List.flatMap_cons, ← List.append_assoc]
      rw [lookupEntry, if_pos rfl] at h
      exact h.append_right _
    · rw [putEntry, if_neg he, List.flatMap_cons, List.flatMap_cons]
      rw [lookupEntry, if_neg he] at h
      exact ((ih h).append_left (f e)).trans (List.perm_append_comm_assoc _ _ _)

/-- A file that is put in adds its row, and no other. -/
theorem rows_insert (index : FileIndex) (file : MessageFile) :
    (index.insert file).rows.Perm (file.row :: index.rows) := by
  -- the row is new among the domains of its tag, and so among the tags
  refine flatMap_putEntry [file.row] ?_
  have hdomains : ∀ domains : Dict String (List String),
      (rowsOf (file.locale.tag,
        domains.insert file.domain ((domains.get? file.domain).getD [] ++ [file.path]))).Perm
        ([file.row] ++ rowsOf (file.locale.tag, domains)) := by
    intro domains
    refine flatMap_putEntry [file.row] ?_
    show (((domains.get? file.domain).getD [] ++ [file.path]).map _).Perm
      ([file.row] ++ ((domains.get? file.domain).map _).getD [])
    cases domains.get? file.domain with
    | none => exact List.Perm.refl _
    | some paths =>
      rw [Option.getD_some, List.map_append]
      exact List.perm_append_comm
  refine (hdomains _).trans ?_
  show List.Perm ([file.row] ++ rowsOf (_, (index.get? file.locale.tag).getD Dict.empty))
    ([file.row] ++ ((index.get? file.locale.tag).map _).getD [])
  cases index.get? file.locale.tag <;> exact List.Perm.refl _

/-! ### All files -/

/-- The last file is put in last. -/
theorem ofFiles_concat (files : List MessageFile) (file : MessageFile) :
    ofFiles (files ++ [file]) = (ofFiles files).insert file :=
  List.foldl_append

/-- The paths under a tag and a domain are those of its files, in their order. -/
theorem paths?_ofFiles (files : List MessageFile) (tag domain : String) :
    (ofFiles files).paths? tag domain
      = if pathsOf files tag domain = [] then none else some (pathsOf files tag domain) := by
  -- from the end, since each file goes behind those before it
  induction files using List.reverseRecOn with
  | nil => rfl
  | append_singleton files file ih =>
    have hpaths : pathsOf (files ++ [file]) tag domain = pathsOf files tag domain
        ++ if file.locale.tag = tag ∧ file.domain = domain then [file.path] else [] := by
      rw [pathsOf, List.filter_append, List.map_append, List.filter_cons]
      by_cases h : file.locale.tag = tag ∧ file.domain = domain
      · rw [if_pos (decide_eq_true h), if_pos h]
        rfl
      · rw [if_neg (by simpa using h), if_neg h]
        rfl
    rw [ofFiles_concat, paths?_insert, ih, hpaths]
    by_cases h : file.locale.tag = tag ∧ file.domain = domain
    · rw [if_pos h, if_pos h, if_neg (List.append_ne_nil_of_right_ne_nil _ (by simp))]
      split
      · next hnil => rw [hnil]; rfl
      · rfl
    · rw [if_neg h, if_neg h, List.append_nil]

/-- Each file has one row. -/
theorem rows_ofFiles (files : List MessageFile) :
    (ofFiles files).rows.Perm (files.map MessageFile.row) := by
  induction files using List.reverseRecOn with
  | nil => exact List.Perm.refl _
  | append_singleton files file ih =>
    rw [ofFiles_concat, List.map_append]
    exact (rows_insert _ file).trans
      ((ih.cons file.row).trans (List.perm_append_singleton _ _).symm)

/-- The tags of an index are those of its files. -/
theorem mem_keys_ofFiles (files : List MessageFile) (tag : String) :
    tag ∈ (ofFiles files).keys ↔ ∃ file ∈ files, file.locale.tag = tag := by
  induction files using List.reverseRecOn with
  | nil => simp [ofFiles]
  | append_singleton files file ih =>
    rw [ofFiles_concat, mem_keys_insert, ih]
    simp [or_and_right, exists_or]

end FileIndex

/-! ### Names of message files -/

/-- The path of a message file is made of the directory and its name. -/
theorem MessageFile.path_of_ofName {name dir : String} {extensions : List String}
    {file : MessageFile} (h : ofName name dir extensions = .ok (some file)) :
    file.path = Path.join dir name := by
  rw [ofName] at h
  split at h
  · exact absurd h (by simp)
  · split at h
    · exact absurd h (by simp)
    · split at h
      · exact absurd h (by simp)
      · rw [← Option.some.inj (Except.ok.inj h)]

/-- A text without its last units is no longer than it was. -/
theorem length_dropLastUnits_le (n : Nat) (s : List Char) :
    (Text.dropLastUnits n s).length ≤ s.length := by
  have hgo : ∀ n s, (Text.dropLastUnits.go n s).length ≤ s.length := by
    intro n s
    induction s generalizing n with
    | nil => cases n <;> exact Nat.le_refl _
    | cons c s ih =>
      cases n with
      | zero => exact Nat.le_refl _
      | succ n =>
        rw [Text.dropLastUnits.go]
        split
        · exact Nat.le_succ_of_le (ih _)
        · exact Nat.le_refl _
  rw [Text.dropLastUnits, List.length_reverse]
  exact Nat.le_trans (hgo n s.reverse) (Nat.le_of_eq (List.length_reverse))

/-- The last dot stands between the two parts. -/
theorem eq_of_cutLastDot? {s before after : List Char} (h : cutLastDot? s = some (before, after)) :
    s = before ++ '.' :: after := by
  rw [cutLastDot?] at h
  split at h
  · exact absurd h (by simp)
  · next c rest hrest =>
    obtain ⟨rfl, rfl⟩ := Prod.mk.inj (Option.some.inj h)
    have hdot : c = '.' := by
      have hhead := List.head?_dropWhile_not (· != '.') s.reverse
      simpa [hrest] using hhead
    have hwhole := List.takeWhile_append_dropWhile (p := (· != '.')) (l := s.reverse)
    rw [hrest, hdot] at hwhole
    have hreverse := congrArg List.reverse hwhole.symm
    rwa [List.reverse_reverse, List.reverse_append, List.reverse_cons, List.append_assoc]
      at hreverse

/-- A stem that states a domain and a tag has three characters at least. -/
theorem three_le_of_cutStem? {stem : List Char} {parts : String × String}
    (h : MessageFile.cutStem? stem = some parts) : 3 ≤ stem.length := by
  rw [MessageFile.cutStem?] at h
  split at h
  · exact absurd h (by simp)
  · exact absurd h (by simp)
  · exact absurd h (by simp)
  · next domain tag hdomain htag hcut =>
    have hlength := congrArg List.length (eq_of_cutLastDot? hcut)
    have hbefore : 0 < domain.length := List.length_pos_iff.2 hdomain
    have hafter : 0 < tag.length := List.length_pos_iff.2 htag
    rw [List.length_append, List.length_cons] at hlength
    omega

/-- A message file has a name of its own in its directory. -/
theorem MessageFile.plain_of_ofName {name dir : String} {extensions : List String}
    {file : MessageFile} (h : ofName name dir extensions = .ok (some file))
    (hslash : '/' ∉ name.toList) : Path.Plain name.toList := by
  have hlength : 3 ≤ name.toList.length := by
    rw [ofName] at h
    split at h
    · exact absurd h (by simp)
    · split at h
      · exact absurd h (by simp)
      · next hstem => exact Nat.le_trans (three_le_of_cutStem? hstem) (length_dropLastUnits_le _ _)
  -- no name of one or two dots is that long
  refine ⟨?_, ?_, ?_, hslash⟩
  · intro heq
    rw [heq] at hlength
    exact absurd hlength (by decide)
  · intro heq
    rw [heq] at hlength
    exact absurd hlength (by decide)
  · intro heq
    rw [heq] at hlength
    exact absurd hlength (by decide)

/-! ### Messages -/

/-- The file at a path holds these messages. -/
def Files.Holds (fs : Files) (path : String) (ms : List (String × String)) : Prop :=
  ∃ content, fs.read path = .ok content ∧ readMessages content path = .ok ms

namespace Directory

variable {D : Directory}

/-- In the bag of a directory is each message of its files. -/
theorem exists_template?_bag_iff (D : Directory) (l : Locale) (domain id : String) :
    (∃ t, D.bag.template? l domain id = some t) ↔ ∃ name t, D.Says name l domain id t := by
  simp only [says_iff, template?_bag_eq_findSome?]
  rw [← Option.isSome_iff_exists, List.findSome?_isSome_iff]
  simp only [List.mem_reverse, mem_regularNames, Option.isSome_iff_exists]
  constructor
  · rintro ⟨name, hname, t, ht⟩
    exact ⟨name, t, hname, ht⟩
  · rintro ⟨name, t, hname, ht⟩
    exact ⟨name, hname, t, ht⟩

/-! ### The index of a directory -/

/-- The names of the files of a tag and a domain, in ascending order. -/
def Lists (D : Directory) (tag domain : String) (names : List String) : Prop :=
  names.Pairwise (fun a b => Text.units a.toList < Text.units b.toList) ∧
    ∀ name, name ∈ names ↔
      ∃ file, D.Names name file ∧ file.locale.tag = tag ∧ file.domain = domain

/-- The names to be read ascend by their units. -/
theorem pairwise_regularNames (D : Directory) :
    (regularNames D.entries).Pairwise fun a b => Text.units a.toList < Text.units b.toList := by
  have hnames := Files.nodup_of_list D.listed
  exact Text.pairwise_lt_sortNames (hnames.sublist (List.filter_sublist.map _))

/-- No name is read twice. -/
theorem nodup_regularNames (D : Directory) : (regularNames D.entries).Nodup := by
  refine D.pairwise_regularNames.imp ?_
  rintro name _ hlt rfl
  exact List.lt_irrefl _ hlt

/-- The names whose files are of a tag and a domain. -/
def namesOf (D : Directory) (tag domain : String) : List String :=
  (regularNames D.entries).filter fun name =>
    (fileOf? D.path D.extensions name).any fun file =>
      file.locale.tag = tag ∧ file.domain = domain

/-- The names of a tag and a domain are those that name such a file, in order. -/
theorem lists_namesOf (D : Directory) (tag domain : String) :
    D.Lists tag domain (D.namesOf tag domain) := by
  refine ⟨D.pairwise_regularNames.filter _, fun name => ?_⟩
  rw [namesOf, List.mem_filter, mem_regularNames, Option.any_eq_true]
  simp only [names_iff, decide_eq_true_eq]
  constructor
  · rintro ⟨hregular, file, hfile, hof⟩
    exact ⟨file, ⟨hregular, hfile⟩, hof⟩
  · rintro ⟨file, ⟨hregular, hfile⟩, hof⟩
    exact ⟨hregular, file, hfile, hof⟩

/-- The path of a file is that of its name. -/
theorem Names.path {name : String} {file : MessageFile} (h : D.Names name file) :
    file.path = Path.join D.path name :=
  MessageFile.path_of_ofName h.2

/-- The paths of a tag and a domain are those of its names. -/
theorem pathsOf_namedFiles (D : Directory) (tag domain : String) :
    FileIndex.pathsOf D.namedFiles tag domain
      = (D.namesOf tag domain).map (Path.join D.path) := by
  rw [FileIndex.pathsOf, namedFiles, namesOf]
  induction regularNames D.entries with
  | nil => rfl
  | cons name names ih =>
    rw [List.filterMap_cons, List.filter_cons]
    cases hfile : fileOf? D.path D.extensions name with
    | none => exact ih
    | some file =>
      have hpath : file.path = Path.join D.path name :=
        MessageFile.path_of_ofName (fileOf?_eq_some_iff.1 hfile)
      rw [List.filter_cons]
      simp only [Option.any_some]
      split
      · rw [List.map_cons, List.map_cons, ih, hpath]
      · exact ih

/-- The paths of the files are all different. -/
theorem nodup_paths (h : D.files.WellNamed) : (D.namedFiles.map MessageFile.path).Nodup := by
  rw [namedFiles]
  refine List.pairwise_map.2 (List.pairwise_filterMap.2 ?_)
  refine D.nodup_regularNames.imp_of_mem ?_
  intro name name' hname hname' hne file hfile file' hfile' heq
  have hplain : ∀ {name file}, name ∈ regularNames D.entries →
      fileOf? D.path D.extensions name = some file →
      Path.Plain name.toList ∧ file.path = Path.join D.path name := by
    intro name file hname hfile
    have hof := fileOf?_eq_some_iff.1 hfile
    refine ⟨MessageFile.plain_of_ofName hof ?_, MessageFile.path_of_ofName hof⟩
    exact h.slash_not_mem_of_list D.listed (mem_regularNames.1 hname)
  obtain ⟨hplain₁, hpath₁⟩ := hplain hname hfile
  obtain ⟨hplain₂, hpath₂⟩ := hplain hname' hfile'
  exact hne (Path.join_inj hplain₁ hplain₂ (hpath₁ ▸ hpath₂ ▸ heq))

/-- The index has every message file, unless a name is badly formed. -/
theorem fileIndex_eq (D : Directory) :
    fileIndex D.files D.path D.extensions
      = ((regularNames D.entries).findSome? (nameFault? D.path D.extensions)).elim
          (.ok (FileIndex.ofFiles D.namedFiles)) .error := by
  rw [fileIndex, messageFiles_of_list D.listed]
  cases (regularNames D.entries).findSome? (nameFault? D.path D.extensions) <;> rfl

/-- Making the index fails with the fault of the first badly formed name. -/
theorem fileIndex_eq_error_iff (D : Directory) (f : LoadFault) :
    fileIndex D.files D.path D.extensions = .error f ↔ First D.BadlyNamed f := by
  rw [← findSome?_eq_some_iff fun _ _ => badlyNamed_iff, fileIndex_eq]
  cases (regularNames D.entries).findSome? (nameFault? D.path D.extensions) <;> simp

/-- It succeeds just where no name is badly formed. -/
theorem fileIndex_eq_ok_iff (D : Directory) (index : FileIndex) :
    fileIndex D.files D.path D.extensions = .ok index ↔
      (∀ name f, ¬ D.BadlyNamed name f) ∧ index = FileIndex.ofFiles D.namedFiles := by
  rw [← findSome?_eq_none_iff fun _ _ => badlyNamed_iff, fileIndex_eq]
  cases (regularNames D.entries).findSome? (nameFault? D.path D.extensions) <;> simp [eq_comm]

/-- The index has the names of each tag and domain. -/
theorem paths?_ofFiles_namedFiles (D : Directory) (tag domain : String) :
    (FileIndex.ofFiles D.namedFiles).paths? tag domain
      = if D.namesOf tag domain = [] then none
        else some ((D.namesOf tag domain).map (Path.join D.path)) := by
  rw [FileIndex.paths?_ofFiles, pathsOf_namedFiles]
  simp only [List.map_eq_nil_iff]

/-- The paths of a tag and a domain are those of the files named so. -/
theorem mem_paths_iff (D : Directory) {tag domain path : String} :
    path ∈ (FileIndex.ofFiles D.namedFiles).paths tag domain ↔
      ∃ name file, D.Names name file ∧ file.locale.tag = tag ∧ file.domain = domain ∧
        file.path = path := by
  have hpaths : (FileIndex.ofFiles D.namedFiles).paths tag domain
      = (D.namesOf tag domain).map (Path.join D.path) := by
    rw [FileIndex.paths, paths?_ofFiles_namedFiles]
    split
    · next hnil => rw [hnil]; rfl
    · rfl
  rw [hpaths, List.mem_map]
  simp only [(D.lists_namesOf tag domain).2]
  constructor
  · rintro ⟨name, ⟨file, hnames, htag, hdomain⟩, rfl⟩
    exact ⟨name, file, hnames, htag, hdomain, hnames.path⟩
  · rintro ⟨name, file, hnames, htag, hdomain, rfl⟩
    exact ⟨name, ⟨file, hnames, htag, hdomain⟩, hnames.path.symm⟩

/-- The rows of an index are those of the message files. -/
theorem mem_rows_iff (D : Directory) {row : String × String × String} :
    row ∈ (FileIndex.ofFiles D.namedFiles).rows ↔
      ∃ name file, D.Names name file ∧ file.row = row := by
  rw [(FileIndex.rows_ofFiles D.namedFiles).mem_iff, List.mem_map]
  simp only [mem_namedFiles]
  constructor
  · rintro ⟨file, ⟨name, hnames⟩, hrow⟩
    exact ⟨name, file, hnames, hrow⟩
  · rintro ⟨name, file, hnames, hrow⟩
    exact ⟨file, ⟨name, hnames⟩, hrow⟩

/-- The tags of an index are those of the message files. -/
theorem mem_keys_iff (D : Directory) {tag : String} :
    tag ∈ (FileIndex.ofFiles D.namedFiles).keys ↔
      ∃ name file, D.Names name file ∧ file.locale.tag = tag := by
  rw [FileIndex.mem_keys_ofFiles]
  simp only [mem_namedFiles]
  constructor
  · rintro ⟨file, ⟨name, hnames⟩, htag⟩
    exact ⟨name, file, hnames, htag⟩
  · rintro ⟨name, file, hnames, htag⟩
    exact ⟨file, ⟨name, hnames⟩, htag⟩

/-- Every file is in the index once. -/
theorem count_paths (h : D.files.WellNamed) {name : String} {file : MessageFile}
    (hnames : D.Names name file) :
    ((FileIndex.ofFiles D.namedFiles).rows.map fun row => row.2.2).count file.path = 1 := by
  have hperm : ((FileIndex.ofFiles D.namedFiles).rows.map fun row => row.2.2).Perm
      (D.namedFiles.map MessageFile.path) := by
    have hrows := (FileIndex.rows_ofFiles D.namedFiles).map fun row => row.2.2
    rwa [List.map_map] at hrows
  rw [hperm.count_eq]
  exact List.count_eq_one_of_mem (nodup_paths h)
    (List.mem_map_of_mem (mem_namedFiles.2 ⟨name, hnames⟩))

/-! ### The index and the bag -/

/-- The index and the bag have the same locales. -/
theorem keys_perm (hsound : D.Sound) :
    (FileIndex.ofFiles D.namedFiles).keys.Perm (D.bag.locales.map Locale.tag) := by
  have hnodup : (D.bag.locales.map Locale.tag).Nodup :=
    D.bag.nodup_locales.map fun _ _ htag => Locale.eq_of_tag_eq htag
  refine (List.perm_ext_iff_of_nodup (FileIndex.ofFiles D.namedFiles).nodup hnodup).2 fun tag => ?_
  refine D.mem_keys_iff.trans (Iff.trans ?_ List.mem_map.symm)
  simp only [Bag.mem_locales, has_bag hsound]
  constructor
  · rintro ⟨name, file, hnames, htag⟩
    exact ⟨file.locale, ⟨name, file, hnames, rfl⟩, htag⟩
  · rintro ⟨l, ⟨name, file, hnames, rfl⟩, htag⟩
    exact ⟨name, file, hnames, htag⟩

/-- A message is in the bag just where a file of its locale and domain has it. -/
theorem exists_template?_bag_iff_paths (D : Directory) (l : Locale) (domain id : String) :
    (∃ t, D.bag.template? l domain id = some t) ↔
      ∃ path ∈ (FileIndex.ofFiles D.namedFiles).paths l.tag domain,
        ∃ ms, D.files.Holds path ms ∧ ∃ t, (id, t) ∈ ms := by
  simp only [exists_template?_bag_iff, mem_paths_iff]
  constructor
  · rintro ⟨name, t, file, ms, ⟨hnames, hholds⟩, rfl, rfl, hmem⟩
    exact ⟨file.path, ⟨name, file, hnames, rfl, rfl, rfl⟩, ms, hholds, t, hmem⟩
  · rintro ⟨path, ⟨name, file, hnames, htag, hdomain, rfl⟩, ms, hholds, t, hmem⟩
    exact ⟨name, t, file, ms, ⟨hnames, hholds⟩, Locale.eq_of_tag_eq htag, hdomain, hmem⟩

/-- A domain is in the bag just where a file of its locale and domain has a message. -/
theorem exists_mem_domains_bag_iff_paths (D : Directory) (l : Locale) (domain : String) :
    (∃ c, D.bag.get? l = some c ∧ domain ∈ c.domains) ↔
      ∃ path ∈ (FileIndex.ofFiles D.namedFiles).paths l.tag domain,
        ∃ ms, D.files.Holds path ms ∧ ms ≠ [] := by
  have hdomains : (∃ c, D.bag.get? l = some c ∧ domain ∈ c.domains) ↔
      ∃ id t, D.bag.template? l domain id = some t :=
    Bag.exists_mem_domains_iff _ l domain
  rw [hdomains]
  simp only [exists_template?_bag_iff_paths]
  constructor
  · rintro ⟨id, path, hpath, ms, hholds, t, hmem⟩
    exact ⟨path, hpath, ms, hholds, List.ne_nil_of_mem hmem⟩
  · rintro ⟨path, hpath, ms, hholds, hne⟩
    obtain ⟨m, hmem⟩ := List.exists_mem_of_ne_nil ms hne
    exact ⟨m.1, path, hpath, ms, hholds, m.2, hmem⟩

end Directory

/-- The index of a directory fails just where the directory cannot be listed or a message file in it
    is badly named, and then loading fails alike.  Otherwise every message file is in the index
    once, under the tag of its locale and its domain, in the order of the names, and nothing else
    is.  Where loading makes a bag, the index has its locales, and the files of a locale and a
    domain have the messages that the bag has there.  Only a directory that is not whole is refused
    for half of a surrogate pair. -/
theorem fileIndex_agrees (fs : Files) (clock : Clock) (dir : String) (extensions : List String) :
    let listing := fileIndex fs dir extensions
    let loading := (loadBag fs clock dir extensions).answer
    (∀ f, listing = .error f → loading = .error f) ∧
    (∀ cause, fs.list dir = .error cause → listing = .error (.directory dir cause)) ∧
    ∀ D : Directory, D.files = fs → D.path = dir → D.extensions = extensions →
      ((∃ f, listing = .error f) ↔ ∃ name f, D.BadlyNamed name f) ∧
      (∀ f, listing = .error f → Directory.First D.BadlyNamed f) ∧
      (D.Whole → ∀ path, loading ≠ .error (.halfPair path)) ∧
      ∀ index, listing = .ok index →
        (∀ tag domain, ∃ names, D.Lists tag domain names ∧ index.paths? tag domain
          = if names = [] then none else some (names.map (Path.join dir))) ∧
        (∀ tag, tag ∈ index.keys ↔ ∃ name file, D.Names name file ∧ file.locale.tag = tag) ∧
        (∀ row, row ∈ index.rows ↔ ∃ name file, D.Names name file ∧ file.row = row) ∧
        (∀ name, D.Accepted name → ∃ file, D.Names name file ∧
          (fs.WellNamed → (index.rows.map fun row => row.2.2).count file.path = 1)) ∧
        ∀ b, loading = .ok b →
          index.keys.Perm (b.locales.map Locale.tag) ∧
          (∀ l domain id, (∃ t, b.template? l domain id = some t) ↔
            ∃ path ∈ index.paths l.tag domain, ∃ ms, fs.Holds path ms ∧ ∃ t, (id, t) ∈ ms) ∧
          ∀ l domain, (∃ c, b.get? l = some c ∧ domain ∈ c.domains) ↔
            ∃ path ∈ index.paths l.tag domain, ∃ ms, fs.Holds path ms ∧ ms ≠ [] := by
  intro listing loading
  -- a directory that cannot be listed is a fault of both, before any name is read
  have hunlisted : ∀ cause, fs.list dir = .error cause →
      messageFiles fs dir extensions = .error (.directory dir cause) := by
    intro cause hcause
    rw [messageFiles, hcause]
  refine ⟨fun f hf => ?_, fun cause hcause => ?_, ?_⟩
  · cases hlist : fs.list dir with
    | error cause =>
      have hlisting : listing = .error (.directory dir cause) := by
        simp only [listing, fileIndex, hunlisted cause hlist, Except.map]
      simp only [loading, loadBag, answer_loadBagBy, hunlisted cause hlist, Except.bind]
      rw [Except.error.inj (hlisting.symm.trans hf)]
    | ok entries =>
      -- from here on the directory is there, with its entries
      let D : Directory := ⟨fs, dir, extensions, entries, hlist⟩
      have hfirst : Directory.First D.BadlyNamed f := (D.fileIndex_eq_error_iff f).1 hf
      exact (D.answer_load_eq_error_iff clock f).2 (Or.inl hfirst)
  · simp only [listing, fileIndex, hunlisted cause hcause, Except.map]
  · rintro D rfl rfl rfl
    refine ⟨?_, fun f hf => (D.fileIndex_eq_error_iff f).1 hf, fun hwhole path hpath => ?_,
      fun index hindex => ?_⟩
    · constructor
      · rintro ⟨f, hf⟩
        obtain ⟨name, hbad, -⟩ := (D.fileIndex_eq_error_iff f).1 hf
        exact ⟨name, f, hbad⟩
      -- one badly formed name is enough, though another may be the one reported
      · rintro ⟨name, f, hbad⟩
        cases hlisting : listing with
        | error g => exact ⟨g, rfl⟩
        | ok index => exact absurd hbad (((D.fileIndex_eq_ok_iff index).1 hlisting).1 name f)
    · exact Directory.not_refused_halfPair hwhole path
        ((D.answer_load_eq_error_iff clock _).1 hpath)
    -- no name is badly formed, so the index is that of the message files
    · obtain ⟨hgood, rfl⟩ := (D.fileIndex_eq_ok_iff index).1 hindex
      refine ⟨fun tag domain => ?_, fun tag => D.mem_keys_iff, fun row => D.mem_rows_iff,
        fun name haccepted => ?_, fun b hb => ?_⟩
      · exact ⟨D.namesOf tag domain, D.lists_namesOf tag domain,
          D.paths?_ofFiles_namedFiles tag domain⟩
      · obtain ⟨file, hnames⟩ := haccepted.exists_names (hgood name)
        exact ⟨file, hnames, fun hfs => Directory.count_paths hfs hnames⟩
      -- loading succeeds, so every file of the index holds messages
      · obtain ⟨hsound, rfl⟩ := (D.answer_load_eq_ok_iff clock b).1 hb
        exact ⟨D.keys_perm hsound, D.exists_template?_bag_iff_paths,
          D.exists_mem_domains_bag_iff_paths⟩

/-- A file with a message, and one of the same locale in another spelling that has none. -/
def oneEmpty : Directory where
  files :=
    { nodes := ⟨[(["app".toList], .directory), (["app".toList, "d".toList], .directory),
        (["app".toList, "d".toList, "n.aa.json".toList],
          .file (.ok (Text.octets "\x7b\x7d".toList))),
        (["app".toList, "d".toList, "m.AA.json".toList],
          .file (.ok (Text.octets "\x7b\"a\":\"1\"\x7d".toList)))],
        by decide +kernel⟩
      home := ["app".toList] }
  path := "d"
  extensions := ["json"]
  entries := [⟨"n.aa.json", true⟩, ⟨"m.AA.json", true⟩]
  listed := toOption_eq_some_iff.1 (by decide +kernel)

/-- A file without messages is in the index once, and its domain is not in the bag. -/
theorem fileIndex_agrees_empty :
    let clock : Clock := ⟨.ofInt 0, []⟩
    oneEmpty.files.WellNamed ∧ ∃ index b,
      fileIndex oneEmpty.files "d" ["json"] = .ok index ∧
      (loadBag oneEmpty.files clock "d" ["json"]).answer = .ok b ∧
      (index.rows.map fun row => row.2.2).count "d/n.aa.json" = 1 ∧
      (∃ t, b.template? default "m" "a" = some t) ∧
      ¬ ∃ c, b.get? default = some c ∧ "n" ∈ c.domains := by
  intro clock
  -- what the two files hold is computed
  have hm : oneEmpty.Holds "m.AA.json" ⟨"d/m.AA.json", "m", default⟩ [("a", "1")] :=
    ⟨Directory.names_iff.2 ⟨by simp [Directory.Regular, oneEmpty], by decide +kernel⟩,
      "\x7b\"a\":\"1\"\x7d", toOption_eq_some_iff.1 (by decide +kernel),
      toOption_eq_some_iff.1 (by decide +kernel)⟩
  have hn : oneEmpty.Holds "n.aa.json" ⟨"d/n.aa.json", "n", default⟩ [] :=
    ⟨Directory.names_iff.2 ⟨by simp [Directory.Regular, oneEmpty], by decide +kernel⟩,
      "\x7b\x7d", toOption_eq_some_iff.1 (by decide +kernel),
      toOption_eq_some_iff.1 (by decide +kernel)⟩
  have hnames : ∀ name, oneEmpty.Accepted name → name = "n.aa.json" ∨ name = "m.AA.json" := by
    rintro name ⟨hregular, -⟩
    simpa [Directory.Regular, oneEmpty] using hregular
  -- from there on the theorem itself is applied
  have hsound : oneEmpty.Sound := by
    intro name hname
    rcases hnames name hname with rfl | rfl
    · exact ⟨_, _, hn⟩
    · exact ⟨_, _, hm⟩
  have hfs : oneEmpty.files.WellNamed := by
    unfold Files.WellNamed Files.SlashFree
    decide +kernel
  have hindex : fileIndex oneEmpty.files "d" ["json"]
      = .ok (FileIndex.ofFiles oneEmpty.namedFiles) := by
    refine (oneEmpty.fileIndex_eq_ok_iff _).2 ⟨fun name f hbad => ?_, rfl⟩
    obtain ⟨file, ms, hholds⟩ := hsound name hbad.1
    exact absurd (hholds.1.2.symm.trans hbad.2) (by simp)
  have hbag : (loadBag oneEmpty.files clock "d" ["json"]).answer = .ok oneEmpty.bag :=
    (oneEmpty.answer_load_eq_ok_iff clock _).2 ⟨hsound, rfl⟩
  obtain ⟨-, -, hagrees⟩ := fileIndex_agrees oneEmpty.files clock "d" ["json"]
  obtain ⟨-, -, -, hagrees⟩ := hagrees oneEmpty rfl rfl rfl
  obtain ⟨-, -, -, honce, hagrees⟩ := hagrees _ hindex
  obtain ⟨-, hmessages, hdomains⟩ := hagrees _ hbag
  obtain ⟨file, hfile, honce⟩ := honce "n.aa.json" hn.1.1
  rw [hfile.unique hn.1] at honce
  refine ⟨hfs, _, _, hindex, hbag, honce hfs, ?_, ?_⟩
  · refine (hmessages default "m" "a").2 ⟨"d/m.AA.json", ?_, _, hm.2, "1", List.mem_singleton.2 rfl⟩
    exact oneEmpty.mem_paths_iff.2 ⟨_, _, hm.1, rfl, rfl, rfl⟩
  · intro hlists
    obtain ⟨path, hpath, ms, hholds, hne⟩ := (hdomains default "n").1 hlists
    obtain ⟨name, file, hfile, -, hdomain, rfl⟩ := oneEmpty.mem_paths_iff.1 hpath
    rcases hnames name hfile.1 with rfl | rfl
    · -- the only file of the domain holds nothing
      obtain ⟨content, hread, hread'⟩ := hholds
      obtain ⟨content', hcontent, hcontent'⟩ := hn.2
      rw [hfile.unique hn.1, hcontent] at hread
      rw [← Except.ok.inj hread, hfile.unique hn.1, hcontent'] at hread'
      exact hne (Except.ok.inj hread').symm
    · rw [hfile.unique hm.1] at hdomain
      exact absurd hdomain (by decide)

end Phrasebook

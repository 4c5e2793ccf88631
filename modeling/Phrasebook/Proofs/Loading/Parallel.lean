import Phrasebook.Proofs.Loading.Directory

namespace Phrasebook

/-!
# Files read at once

Readings that run at the same time end in any order.  What comes in is kept in the place of its
file, so that the order leaves no trace in what is loaded; only which of several faults is reported
depends on it.

* `faultAt?`, `loadedAt?`, `slotsAfter`: what the readings come to, place by place.
* `Gathered.arrive_slotsAfter`, `Gathered.run_slotsAfter`: one reading, and then all of them.
* `loadFilesInParallel_eq`: the fault of the reading that failed first, or the files in their
  places.
* `code_of_ofName`, `Directory.Unreadable.code`: the stage of a fault by its
  code.
* `loadBagInParallel_agrees`: loading at once and loading one after another agree.
-/

section

variable (fs : Files) (files : List MessageFile)

/-- The fault of reading the file at a place. -/
def faultAt? (place : Nat) : Option LoadFault :=
  files[place]?.bind fun file => faultOf (file.load fs)

/-- The file at a place with its content, if it can be read. -/
def loadedAt? (place : Nat) : Option LoadedFile :=
  files[place]?.bind fun file => (file.load fs).toOption

/-- What has come in once the readings at these places have ended. -/
def slotsAfter (read : List Nat) : List (Option LoadedFile) :=
  (List.range files.length).map fun place => if place ∈ read then loadedAt? fs files place else none

end

variable {fs : Files} {files : List MessageFile}

/-! ### Readings -/

/-- What stands in a place. -/
theorem getElem?_slotsAfter (read : List Nat) (place : Nat) :
    (slotsAfter fs files read)[place]?
      = if place < files.length then some (if place ∈ read then loadedAt? fs files place else none)
        else none := by
  rw [slotsAfter, List.getElem?_map]
  by_cases hin : place < files.length
  · rw [List.getElem?_range hin, if_pos hin, Option.map_some]
  · rw [List.getElem?_eq_none (by rw [List.length_range]; omega), if_neg hin, Option.map_none]

/-- There is a slot for each file, however many were read. -/
theorem length_slotsAfter (read : List Nat) : (slotsAfter fs files read).length = files.length := by
  rw [slotsAfter, List.length_map, List.length_range]

namespace Gathered

/-- One reading: its fault ends everything, and else its file comes in. -/
theorem arrive_slotsAfter (read : List Nat) (place : Nat) :
    arrive fs files (.ok (slotsAfter fs files read)) place
      = (faultAt? fs files place).elim (.ok (slotsAfter fs files (place :: read))) .error := by
  unfold arrive faultAt?
  cases hfile : files[place]? with
  | none =>
    -- there is no such place, so nothing comes in
    have hout : files.length ≤ place := List.getElem?_eq_none_iff.1 hfile
    have hsame : slotsAfter fs files (place :: read) = slotsAfter fs files read := by
      refine List.map_congr_left fun other hother => ?_
      have hne : other ≠ place := by
        have hlt := List.mem_range.1 hother
        omega
      simp [hne]
    rw [hsame]
    rfl
  | some file =>
    cases hload : file.load fs with
    | error f =>
      simp only [Option.bind_some, hload]
      rfl
    | ok loaded =>
      have hin : place < files.length := (List.getElem?_eq_some_iff.1 hfile).1
      have hloaded : loadedAt? fs files place = some loaded := by
        rw [loadedAt?, hfile, Option.bind_some, hload]
        rfl
      have hset : (slotsAfter fs files read).set place (some loaded)
          = slotsAfter fs files (place :: read) := by
        refine List.ext_getElem? fun other => ?_
        rw [List.getElem?_set, length_slotsAfter, getElem?_slotsAfter, getElem?_slotsAfter]
        by_cases hother : place = other
        · subst hother
          rw [if_pos rfl, if_pos hin, if_pos hin, if_pos List.mem_cons_self, hloaded]
        · have hmem : other ∈ place :: read ↔ other ∈ read := by
            rw [List.mem_cons]
            exact or_iff_right (Ne.symm hother)
          simp only [if_neg hother, hmem]
      simp only [Option.bind_some, hload, hset]
      rfl

/-- A fault stays. -/
theorem run_error (f : LoadFault) (order : List Nat) :
    order.foldl (arrive fs files) (Except.error f) = Except.error f := by
  induction order with
  | nil => rfl
  | cons place order ih => exact ih

/-- All readings, in the order in which they end: the first fault, or all that came in. -/
theorem run_slotsAfter (read order : List Nat) :
    order.foldl (arrive fs files) (Except.ok (slotsAfter fs files read))
      = (order.findSome? (faultAt? fs files)).elim
          (.ok (slotsAfter fs files (order.reverse ++ read))) .error := by
  induction order generalizing read with
  | nil => rfl
  | cons place order ih =>
    rw [List.foldl_cons, arrive_slotsAfter, List.findSome?_cons]
    cases faultAt? fs files place with
    | some f => exact run_error f order
    | none =>
      show order.foldl (arrive fs files) (Except.ok (slotsAfter fs files (place :: read))) = _
      rw [ih, List.reverse_cons, List.append_assoc, List.singleton_append]

end Gathered

/-- Before any was read, all slots are empty. -/
theorem slotsAfter_nil : slotsAfter fs files [] = files.map fun _ => none := by
  refine List.ext_getElem? fun place => ?_
  rw [getElem?_slotsAfter, List.getElem?_map]
  by_cases hin : place < files.length
  · rw [if_pos hin, if_neg List.not_mem_nil, List.getElem?_eq_getElem hin, Option.map_some]
  · rw [if_neg hin, List.getElem?_eq_none (by omega), Option.map_none]

/-- Once every reading has ended, each place holds its file. -/
theorem slotsAfter_all {read : List Nat} (h : ∀ place < files.length, place ∈ read) :
    slotsAfter fs files read = files.map fun file => (file.load fs).toOption := by
  refine List.ext_getElem? fun place => ?_
  rw [getElem?_slotsAfter, List.getElem?_map]
  by_cases hin : place < files.length
  · rw [if_pos hin, if_pos (h place hin), loadedAt?, List.getElem?_eq_getElem hin,
      Option.bind_some, Option.map_some]
  · rw [if_neg hin, List.getElem?_eq_none (by omega), Option.map_none]

/-- Files read at once: the fault of the reading that failed first, or the files in their places. -/
theorem loadFilesInParallel_eq {ended : List Nat → List Nat}
    (hended : (ended (List.range files.length)).Perm (List.range files.length)) :
    loadFilesInParallel fs ended files
      = ((ended (List.range files.length)).findSome? (faultAt? fs files)).elim
          (.ok (files.filterMap fun file => (file.load fs).toOption)) .error := by
  have hall : ∀ place < files.length, place ∈ (ended (List.range files.length)).reverse ++ [] := by
    intro place hplace
    rw [List.append_nil, List.mem_reverse, hended.mem_iff]
    exact List.mem_range.2 hplace
  rw [loadFilesInParallel, ← slotsAfter_nil, Gathered.run_slotsAfter, slotsAfter_all hall]
  cases (ended (List.range files.length)).findSome? (faultAt? fs files) with
  | some f => rfl
  | none =>
    show Except.ok ((files.map _).filterMap id) = _
    rw [List.filterMap_map]
    rfl

/-- Files are read as they are there, unless reading one fails. -/
theorem loadFiles_eq (fs : Files) (files : List MessageFile) :
    loadFiles fs files
      = (files.findSome? fun file => faultOf (file.load fs)).elim
          (.ok (files.filterMap fun file => (file.load fs).toOption)) .error := by
  rw [loadFiles_eq_mapM, mapM_eq_findSome?]

/-- A place has the fault of the file there. -/
theorem faultAt?_eq_some_iff {place : Nat} {f : LoadFault} :
    faultAt? fs files place = some f
      ↔ ∃ file, files[place]? = some file ∧ file.load fs = .error f := by
  rw [faultAt?, Option.bind_eq_some_iff]
  simp only [faultOf_eq_some_iff]

/-- Some reading fails in one order just where some does in the other. -/
theorem findSome?_faultAt?_eq_none_iff (fs : Files) {order : List Nat}
    (horder : order.Perm (List.range files.length)) :
    order.findSome? (faultAt? fs files) = none
      ↔ (files.findSome? fun file => faultOf (file.load fs)) = none := by
  rw [List.findSome?_eq_none_iff, List.findSome?_eq_none_iff]
  constructor
  · intro hnone file hfile
    obtain ⟨place, hplace, rfl⟩ := List.getElem_of_mem hfile
    have hno := hnone place (horder.mem_iff.2 (List.mem_range.2 hplace))
    rwa [faultAt?, List.getElem?_eq_getElem hplace] at hno
  · intro hnone place _
    rw [faultAt?]
    cases hfile : files[place]? with
    | none => rfl
    | some file => exact hnone file (List.mem_of_getElem? hfile)

variable {ended : List Nat → List Nat}

/-- Either all readings end well in both orders, or one fails in each. -/
theorem loadFilesInParallel_cases (fs : Files)
    (hended : (ended (List.range files.length)).Perm (List.range files.length)) :
    (∃ loaded, loadFilesInParallel fs ended files = .ok loaded ∧ loadFiles fs files = .ok loaded) ∨
    ∃ f g, loadFilesInParallel fs ended files = .error f ∧ loadFiles fs files = .error g ∧
      (∃ file ∈ files, file.load fs = .error f) ∧ ∃ file ∈ files, file.load fs = .error g := by
  have hnone := findSome?_faultAt?_eq_none_iff fs hended
  rw [loadFilesInParallel_eq hended, loadFiles_eq]
  cases hfirst : (ended (List.range files.length)).findSome? (faultAt? fs files) with
  | none =>
    rw [hnone.1 hfirst]
    exact Or.inl ⟨_, rfl, rfl⟩
  | some f =>
    cases hfault : files.findSome? fun file => faultOf (file.load fs) with
    | none =>
      rw [hnone.2 hfault] at hfirst
      exact absurd hfirst (by simp)
    | some g =>
      obtain ⟨place, -, hplace⟩ := List.exists_of_findSome?_eq_some hfirst
      obtain ⟨file, hfile, hload⟩ := faultAt?_eq_some_iff.1 hplace
      obtain ⟨file', hfile', hload'⟩ := List.exists_of_findSome?_eq_some hfault
      exact Or.inr ⟨f, g, rfl, rfl, ⟨file, List.mem_of_getElem? hfile, hload⟩,
        file', hfile', faultOf_eq_some_iff.1 hload'⟩

/-- The places with one of them moved to the front, if it is among them. -/
def endingFirst (place : Nat) (places : List Nat) : List Nat :=
  if place ∈ places then place :: places.erase place else places

/-- The order in which one reading ends first is an order of the places. -/
theorem endingFirst_perm (place : Nat) (places : List Nat) :
    (endingFirst place places).Perm places := by
  unfold endingFirst
  split
  · next hmem => exact (List.perm_cons_erase hmem).symm
  · exact List.Perm.refl places

/-- Any reading that fails may be the one that fails first. -/
theorem exists_loadFilesInParallel_eq_error {file : MessageFile} {f : LoadFault}
    (hfile : file ∈ files) (hload : file.load fs = .error f) :
    ∃ place, loadFilesInParallel fs (endingFirst place) files = .error f := by
  obtain ⟨place, hplace, rfl⟩ := List.getElem_of_mem hfile
  have hfault : faultAt? fs files place = some f :=
    faultAt?_eq_some_iff.2 ⟨_, List.getElem?_eq_getElem hplace, hload⟩
  refine ⟨place, ?_⟩
  rw [loadFilesInParallel_eq (endingFirst_perm place _), endingFirst,
    if_pos (List.mem_range.2 hplace), List.findSome?_cons, hfault]
  rfl

/-! ### Faults and their stages -/

/-- A name is refused for what it is made of, or for its tag. -/
theorem ofName_error_cases {name dir : String} {extensions : List String} {f : LoadFault}
    (h : MessageFile.ofName name dir extensions = .error f) :
    (∃ extension, f = .fileName (Path.join dir name) name extension) ∨
      ∃ tag, f = .fileLocale (Path.join dir name) name tag := by
  unfold MessageFile.ofName at h
  split at h
  · exact absurd h (by simp)
  · simp only at h
    split at h
    · exact Or.inl ⟨_, (Except.error.inj h).symm⟩
    · split at h
      · exact Or.inr ⟨_, (Except.error.inj h).symm⟩
      · exact absurd h (by simp)

/-- A badly formed name has a code of its own. -/
theorem code_of_ofName {name dir : String} {extensions : List String} {f : LoadFault}
    (h : MessageFile.ofName name dir extensions = .error f) : f.code = "INVALID_FILENAME" := by
  rcases ofName_error_cases h with ⟨extension, rfl⟩ | ⟨tag, rfl⟩ <;> rfl

/-- Listing message files fails for the directory or for a name. -/
theorem code_of_messageFiles {dir : String} {extensions : List String} {f : LoadFault}
    (h : messageFiles fs dir extensions = .error f) :
    f.code = "DIRECTORY_UNREADABLE" ∨ f.code = "INVALID_FILENAME" := by
  cases hlist : fs.list dir with
  | error cause =>
    rw [messageFiles, hlist] at h
    rw [← Except.error.inj h]
    exact Or.inl rfl
  | ok entries =>
    rw [messageFiles_of_list hlist] at h
    cases hfault : (regularNames entries).findSome? (nameFault? dir extensions) with
    | none =>
      rw [hfault] at h
      exact absurd h (by simp)
    | some g =>
      rw [hfault] at h
      obtain ⟨name, -, hname⟩ := List.exists_of_findSome?_eq_some hfault
      rw [← Except.error.inj h]
      exact Or.inr (code_of_ofName (faultOf_eq_some_iff.1 hname))

/-- Reading contents fails for a content. -/
theorem code_of_mapM_catalogue {loaded : List LoadedFile} {f : LoadFault}
    (h : loaded.mapM LoadedFile.catalogue = .error f) : f.code = "INVALID_FILE_CONTENT" := by
  rw [mapM_eq_findSome?] at h
  cases hfault : loaded.findSome? fun x => faultOf x.catalogue with
  | none =>
    rw [hfault] at h
    exact absurd h (by simp)
  | some g =>
    rw [hfault] at h
    obtain ⟨x, -, hx⟩ := List.exists_of_findSome?_eq_some hfault
    rw [← Except.error.inj h]
    exact (path_code_of_readMessages
      (LoadedFile.catalogue_eq_error_iff.1 (faultOf_eq_some_iff.1 hx))).2

/-! ### Loading -/

/-- Loading at once comes to the bag that loading one after another comes to; or both end with the
    fault of one stage, where of several unreadable files any may be the one reported. -/
theorem answer_loadBagInParallel_cases (hended : ∀ places, (ended places).Perm places)
    (clock : Clock) (dir : String) (extensions : List String) :
    (loadBagInParallel ended fs clock dir extensions).answer
        = (loadBag fs clock dir extensions).answer ∧
      (∀ f, (loadBag fs clock dir extensions).answer = .error f → f.code ≠ "FILE_UNREADABLE") ∨
    ∃ files f g, messageFiles fs dir extensions = .ok files ∧
      (loadBagInParallel ended fs clock dir extensions).answer = .error f ∧
      (loadBag fs clock dir extensions).answer = .error g ∧
      (∃ file ∈ files, file.load fs = .error f) ∧ ∃ file ∈ files, file.load fs = .error g := by
  rw [loadBagInParallel, loadBag, answer_loadBagBy, answer_loadBagBy]
  cases hfiles : messageFiles fs dir extensions with
  | error e =>
    refine Or.inl ⟨rfl, fun f hf => ?_⟩
    rw [← Except.error.inj hf]
    -- listing fails the same way in both, and never as an unreadable file
    rcases code_of_messageFiles hfiles with hcode | hcode <;> rw [hcode] <;> decide
  | ok files =>
    simp only [Except.bind]
    -- only where files fail can the order of the endings be seen
    rcases loadFilesInParallel_cases fs (hended (List.range files.length)) with
      ⟨loaded, hatOnce, hone⟩ | ⟨f, g, hatOnce, hone, hfaults⟩
    · rw [hatOnce, hone]
      refine Or.inl ⟨rfl, fun f hf => ?_⟩
      have hmade : (loaded.mapM LoadedFile.catalogue).map Bag.empty.insertList = .error f := hf
      cases hcatalogues : loaded.mapM LoadedFile.catalogue with
      | error e =>
        rw [hcatalogues] at hmade
        rw [← Except.error.inj hmade, code_of_mapM_catalogue hcatalogues]
        decide
      | ok cs =>
        rw [hcatalogues] at hmade
        exact absurd hmade (by simp [Except.map])
    · rw [hatOnce, hone]
      exact Or.inr ⟨files, f, g, rfl, rfl, rfl, hfaults⟩

/-- An unreadable file of a directory is one whose reading fails. -/
theorem Directory.exists_unreadable_iff {D : Directory} {files : List MessageFile}
    (h : messageFiles D.files D.path D.extensions = .ok files) {f : LoadFault} :
    (∃ name, D.Unreadable name f) ↔ ∃ file ∈ files, file.load D.files = .error f := by
  simp only [mem_files_iff h, MessageFile.load_eq_error_iff]
  constructor
  · rintro ⟨name, file, cause, hnames, hread, rfl⟩
    exact ⟨file, ⟨name, hnames⟩, cause, hread, rfl⟩
  · rintro ⟨file, ⟨name, hnames⟩, cause, hread, rfl⟩
    exact ⟨name, file, cause, hnames, hread, rfl⟩

/-- An unreadable file has a code of its own. -/
theorem Directory.Unreadable.code {D : Directory} {name : String} {f : LoadFault}
    (h : D.Unreadable name f) : f.code = "FILE_UNREADABLE" := by
  obtain ⟨file, cause, -, -, rfl⟩ := h
  rfl

/-- Where the code of the fault is that of unreadable files, it is the fault of the first of
    them. -/
theorem Directory.first_unreadable {D : Directory} {clock : Clock} {g : LoadFault}
    (h : (D.load clock).answer = .error g) (hcode : g.code = "FILE_UNREADABLE") :
    (∀ name f, ¬ D.BadlyNamed name f) ∧ First D.Unreadable g := by
  rcases (D.answer_load_eq_error_iff clock g).1 h with
    ⟨name, hbad, -⟩ | ⟨hnames, hfirst⟩ | ⟨-, -, name, hinvalid, -⟩
  · rw [code_of_ofName hbad.2] at hcode
    exact absurd hcode (by decide)
  · exact ⟨hnames, hfirst⟩
  · obtain ⟨file, content, -, -, hmessages⟩ := hinvalid
    rw [(path_code_of_readMessages hmessages).2] at hcode
    exact absurd hcode (by decide)

/-- Without a badly named file there are message files. -/
theorem Directory.exists_messageFiles {D : Directory} (h : ∀ name f, ¬ D.BadlyNamed name f) :
    ∃ files, messageFiles D.files D.path D.extensions = .ok files := by
  rw [messageFiles_of_list D.listed,
    (findSome?_eq_none_iff fun name f => badlyNamed_iff).2 h]
  exact ⟨_, rfl⟩

/-- A directory that has message files can be listed. -/
theorem exists_directory {dir : String} {extensions : List String} {files : List MessageFile}
    (h : messageFiles fs dir extensions = .ok files) :
    ∃ D : Directory, D.files = fs ∧ D.path = dir ∧ D.extensions = extensions := by
  cases hlist : fs.list dir with
  | error cause =>
    rw [messageFiles, hlist] at h
    exact absurd h (by simp)
  | ok entries => exact ⟨⟨fs, dir, extensions, entries, hlist⟩, rfl, rfl, rfl⟩

/-- Reading at once and reading one after another make the same bag, in whatever order the readings
    end.  They fail together, with the same code and the same fault, but that of several unreadable
    files any may be reported by reading at once, and the first in the order of the names is by
    reading one after another. -/
theorem loadBagInParallel_agrees (fs : Files) (clock : Clock) (dir : String)
    (extensions : List String) (ended : List Nat → List Nat)
    (hended : ∀ places, (ended places).Perm places) :
    let one := (loadBag fs clock dir extensions).answer
    let atOnce := (loadBagInParallel ended fs clock dir extensions).answer
    (∀ b, atOnce = .ok b ↔ one = .ok b) ∧
    (∀ f, atOnce = .error f → ∃ g, one = .error g ∧ g.code = f.code ∧
      (f.code ≠ "FILE_UNREADABLE" → f = g) ∧
      (f.code = "FILE_UNREADABLE" →
        ∃ D : Directory, D.files = fs ∧ D.path = dir ∧ D.extensions = extensions ∧
          (∃ name, D.Unreadable name f) ∧ Directory.First D.Unreadable g)) ∧
    ∀ D : Directory, D.files = fs → D.path = dir → D.extensions = extensions →
      ∀ g, one = .error g → g.code = "FILE_UNREADABLE" → ∀ name f, D.Unreadable name f →
        ∃ ended', (∀ places, (ended' places).Perm places) ∧
          (loadBagInParallel ended' fs clock dir extensions).answer = .error f := by
  intro one atOnce
  -- both agree, or both fail for an unreadable file
  refine ⟨?_, ?_, ?_⟩
  · intro b
    rcases answer_loadBagInParallel_cases hended clock dir extensions with
      ⟨hsame, -⟩ | ⟨files, f, g, -, hatOnce, hone, -⟩
    · show (loadBagInParallel ended fs clock dir extensions).answer = .ok b ↔ _
      rw [hsame]
    · exact iff_of_false (by simp [atOnce, hatOnce]) (by simp [one, hone])
  · intro f hf
    rcases answer_loadBagInParallel_cases hended clock dir extensions with
      ⟨hsame, hcode⟩ | ⟨files, f', g, hfiles, hatOnce, hone, hf', hg⟩
    · have hone : one = .error f := hsame.symm.trans hf
      exact ⟨f, hone, rfl, fun _ => rfl, fun h => absurd h (hcode f hone)⟩
    · obtain rfl : f' = f := Except.error.inj (hatOnce.symm.trans hf)
      obtain ⟨D, rfl, rfl, rfl⟩ := exists_directory hfiles
      obtain ⟨name, hunreadable⟩ := (Directory.exists_unreadable_iff hfiles).2 hf'
      obtain ⟨name', hunreadable'⟩ := (Directory.exists_unreadable_iff hfiles).2 hg
      have hcode := hunreadable.code
      have hcode' := hunreadable'.code
      exact ⟨g, hone, hcode'.trans hcode.symm, fun h => absurd hcode h, fun _ =>
        ⟨D, rfl, rfl, rfl, ⟨name, hunreadable⟩, (Directory.first_unreadable hone hcode').2⟩⟩
  · rintro D rfl rfl rfl g hg hcode name f hf
    -- any unreadable file may be the first to end, since the order is not given
    obtain ⟨hnames, -⟩ := Directory.first_unreadable hg hcode
    obtain ⟨files, hfiles⟩ := Directory.exists_messageFiles hnames
    obtain ⟨file, hfile, hload⟩ := (Directory.exists_unreadable_iff hfiles).1 ⟨name, hf⟩
    obtain ⟨place, hplace⟩ := exists_loadFilesInParallel_eq_error hfile hload
    refine ⟨endingFirst place, endingFirst_perm place, ?_⟩
    rw [loadBagInParallel, answer_loadBagBy, hfiles]
    simp only [Except.bind, hplace]

/-- Two files that cannot be read, for different reasons. -/
def twoUnreadable : Directory where
  files :=
    { nodes := ⟨[(["d".toList], .directory),
        (["d".toList, "b.aa.json".toList], .file (.error "EACCES")),
        (["d".toList, "a.aa.json".toList], .file (.error "EIO"))], by decide +kernel⟩ }
  path := "/d"
  extensions := ["json"]
  entries := [⟨"b.aa.json", true⟩, ⟨"a.aa.json", true⟩]
  listed := toOption_eq_some_iff.1 (by decide +kernel)

/-- The fault of the second of two unreadable files is reported when its reading ends first. -/
theorem loadBagInParallel_agrees_unreadable :
    let clock : Clock := ⟨.ofInt 0, []⟩
    (∀ places : List Nat, places.reverse.Perm places) ∧
      (loadBag twoUnreadable.files clock "/d" ["json"]).answer
        = .error (.file "/d/a.aa.json" (.stated "EIO")) ∧
      ∃ ended, (∀ places, (ended places).Perm places) ∧
        (loadBagInParallel ended twoUnreadable.files clock "/d" ["json"]).answer
          = .error (.file "/d/b.aa.json" (.stated "EACCES")) := by
  intro clock
  have hfirst : twoUnreadable.Unreadable "a.aa.json" (.file "/d/a.aa.json" (.stated "EIO")) :=
    ⟨⟨"/d/a.aa.json", "a", default⟩, .stated "EIO",
      Directory.names_iff.2 ⟨by simp [Directory.Regular, twoUnreadable], by decide +kernel⟩,
      faultOf_eq_some_iff.1 (by decide +kernel), rfl⟩
  have hsecond : twoUnreadable.Unreadable "b.aa.json" (.file "/d/b.aa.json" (.stated "EACCES")) :=
    ⟨⟨"/d/b.aa.json", "b", default⟩, .stated "EACCES",
      Directory.names_iff.2 ⟨by simp [Directory.Regular, twoUnreadable], by decide +kernel⟩,
      faultOf_eq_some_iff.1 (by decide +kernel), rfl⟩
  have hnames : ∀ name, twoUnreadable.Accepted name → name = "b.aa.json" ∨ name = "a.aa.json" := by
    rintro name ⟨hregular, -⟩
    simpa [Directory.Regular, twoUnreadable] using hregular
  have hgood : ∀ name f, ¬ twoUnreadable.BadlyNamed name f := by
    intro name f hbad
    rcases hnames name hbad.1 with rfl | rfl
    · obtain ⟨file, cause, hfile, -⟩ := hsecond
      exact absurd (hfile.2.symm.trans hbad.2) (by simp)
    · obtain ⟨file, cause, hfile, -⟩ := hfirst
      exact absurd (hfile.2.symm.trans hbad.2) (by simp)
  have hone : (loadBag twoUnreadable.files clock "/d" ["json"]).answer
      = .error (.file "/d/a.aa.json" (.stated "EIO")) := by
    refine (twoUnreadable.answer_load_eq_error_iff clock _).2 (Or.inr (Or.inl ⟨hgood, ?_⟩))
    refine ⟨"a.aa.json", hfirst, fun other g hother => ?_⟩
    obtain ⟨file, cause, hfile, -⟩ := hother
    rcases hnames other hfile.1 with rfl | rfl
    · decide +kernel
    · exact Text.nameLe_refl _
  obtain ⟨-, -, hany⟩ :=
    loadBagInParallel_agrees twoUnreadable.files clock "/d" ["json"] List.reverse
    fun places => List.reverse_perm places
  exact ⟨fun places => List.reverse_perm places, hone,
    hany twoUnreadable rfl rfl rfl _ hone rfl "b.aa.json" _ hsecond⟩

end Phrasebook

import Phrasebook.Proofs.Files
import Phrasebook.Proofs.Json.Escapes
import Phrasebook.Proofs.Loading.Stages

namespace Phrasebook

/-!
# Loading a directory

The bag that loading a directory gives, and the fault where it gives none, from what the directory
holds alone.

* `Directory`: a directory that can be listed.
* `Directory.Accepted`, `Directory.Names`, `Directory.Holds`: what its files are and say.
* `Directory.BadlyNamed`, `Directory.Unreadable`, `Directory.Invalid`: what can be wrong with one.
* `Directory.Says`: the message of a file; `Directory.Refused`: the fault that is reported.
* `Directory.Whole`: the files say nothing that strings cannot say, so none is refused for that.
* `Directory.load_spec`: loading gives a bag of all the messages, or reports that fault, whatever
  order the files are listed in.
-/

/-- A directory that can be listed, and the extensions that are accepted in it. -/
structure Directory where
  files : Files
  path : String
  extensions : List String
  entries : List Files.Entry
  listed : files.list path = .ok entries

namespace Directory

/-- The bag that the directory makes, with what is logged on the way. -/
def load (D : Directory) (clock : Clock) : Logged (Except LoadFault Bag) :=
  loadBag D.files clock D.path D.extensions

/-! ### What a directory holds -/

/-- A regular file of this name stands in the directory. -/
def Regular (D : Directory) (name : String) : Prop :=
  (⟨name, true⟩ : Files.Entry) ∈ D.entries

/-- A regular file whose extension is accepted. -/
def Accepted (D : Directory) (name : String) : Prop :=
  D.Regular name ∧ (MessageFile.extension? name D.extensions).isSome = true

/-- An accepted file and the domain and the locale that its name states. -/
def Names (D : Directory) (name : String) (file : MessageFile) : Prop :=
  D.Accepted name ∧ MessageFile.ofName name D.path D.extensions = .ok (some file)

/-- An accepted file and the messages that it holds. -/
def Holds (D : Directory) (name : String) (file : MessageFile) (ms : List (String × String)) :
    Prop :=
  D.Names name file ∧
    ∃ content, D.files.read file.path = .ok content ∧ readMessages content file.path = .ok ms

/-- An accepted file whose name states no domain or no locale. -/
def BadlyNamed (D : Directory) (name : String) (f : LoadFault) : Prop :=
  D.Accepted name ∧ MessageFile.ofName name D.path D.extensions = .error f

/-- An accepted file that cannot be read. -/
def Unreadable (D : Directory) (name : String) (f : LoadFault) : Prop :=
  ∃ file cause, D.Names name file ∧ D.files.read file.path = .error cause ∧
    f = .file file.path cause

/-- An accepted file whose content is no object of messages. -/
def Invalid (D : Directory) (name : String) (f : LoadFault) : Prop :=
  ∃ file content, D.Names name file ∧ D.files.read file.path = .ok content ∧
    readMessages content file.path = .error f

/-- Nothing is wrong with any accepted file. -/
def Sound (D : Directory) : Prop :=
  ∀ name, D.Accepted name → ∃ file ms, D.Holds name file ms

/-- No accepted file that can be read has half of a surrogate pair alone in what it says. -/
def Whole (D : Directory) : Prop :=
  ∀ name file content, D.Names name file → D.files.read file.path = .ok content →
    WholeContent content

/-- An accepted file has a message under an id of its locale and domain. -/
def Says (D : Directory) (name : String) (l : Locale) (domain id template : String) : Prop :=
  ∃ file ms, D.Holds name file ms ∧ file.locale = l ∧ file.domain = domain ∧ (id, template) ∈ ms

/-- What is wrong with the first name for which something is. -/
def First (p : String → LoadFault → Prop) (f : LoadFault) : Prop :=
  ∃ name, p name f ∧ ∀ other g, p other g → Text.nameLe name other = true

/-- The fault that is reported: of the first badly named file, else of the first unreadable one,
    else of the first invalid one. -/
def Refused (D : Directory) (f : LoadFault) : Prop :=
  First D.BadlyNamed f ∨
    ((∀ name g, ¬ D.BadlyNamed name g) ∧ First D.Unreadable f) ∨
    ((∀ name g, ¬ D.BadlyNamed name g) ∧ (∀ name g, ¬ D.Unreadable name g) ∧ First D.Invalid f)

/-! ### By names -/

/-- The names to be read are those of regular files. -/
theorem mem_regularNames {name : String} {entries : List Files.Entry} :
    name ∈ regularNames entries ↔ (⟨name, true⟩ : Files.Entry) ∈ entries := by
  rw [regularNames, Text.mem_sortNames, List.mem_map]
  constructor
  · rintro ⟨e, he, rfl⟩
    obtain ⟨hmem, hfile⟩ := List.mem_filter.1 he
    rwa [show (⟨e.name, true⟩ : Files.Entry) = e from by cases e; cases hfile; rfl]
  · intro h
    exact ⟨⟨name, true⟩, List.mem_filter.2 ⟨h, rfl⟩, rfl⟩

/-- Only a name whose extension is not accepted is passed over. -/
theorem ofName_eq_none_iff {name dir : String} {extensions : List String} :
    MessageFile.ofName name dir extensions = .ok none ↔
      MessageFile.extension? name extensions = none := by
  rw [MessageFile.ofName]
  cases MessageFile.extension? name extensions with
  | none => simp
  | some extension =>
    simp only [reduceCtorEq, iff_false]
    split
    · simp
    · split <;> simp

/-- A name that is not passed over has one of the extensions. -/
theorem isSome_extension? {name dir : String} {extensions : List String}
    (h : MessageFile.ofName name dir extensions ≠ .ok none) :
    (MessageFile.extension? name extensions).isSome = true :=
  Option.isSome_iff_ne_none.2 (mt ofName_eq_none_iff.2 h)

variable {D : Directory} {name : String}

/-- A name names a message file just where it is read as one. -/
theorem names_iff {file : MessageFile} :
    D.Names name file ↔ D.Regular name ∧ fileOf? D.path D.extensions name = some file := by
  rw [fileOf?_eq_some_iff]
  constructor
  · rintro ⟨⟨hregular, -⟩, hname⟩
    exact ⟨hregular, hname⟩
  · rintro ⟨hregular, hname⟩
    exact ⟨⟨hregular, isSome_extension? (by rw [hname]; simp)⟩, hname⟩

/-- A name states one domain and one locale. -/
theorem Names.unique {file file' : MessageFile} (h : D.Names name file) (h' : D.Names name file') :
    file = file' := by
  have hname := h.2.symm.trans h'.2
  exact Option.some.inj (Except.ok.inj hname)

/-- A name is badly formed just where reading it fails. -/
theorem badlyNamed_iff {f : LoadFault} :
    D.BadlyNamed name f ↔ D.Regular name ∧ nameFault? D.path D.extensions name = some f := by
  rw [nameFault?, faultOf_eq_some_iff]
  constructor
  · rintro ⟨⟨hregular, -⟩, hname⟩
    exact ⟨hregular, hname⟩
  · rintro ⟨hregular, hname⟩
    exact ⟨⟨hregular, isSome_extension? (by rw [hname]; simp)⟩, hname⟩

/-- A file is unreadable just where reading it fails. -/
theorem unreadable_iff {f : LoadFault} :
    D.Unreadable name f ↔
      D.Regular name ∧ readFault? D.files D.path D.extensions name = some f := by
  simp only [readFault?, Option.bind_eq_some_iff, faultOf_eq_some_iff,
    MessageFile.load_eq_error_iff]
  constructor
  · rintro ⟨file, cause, hnames, hread, rfl⟩
    obtain ⟨hregular, hfile⟩ := names_iff.1 hnames
    exact ⟨hregular, file, hfile, cause, hread, rfl⟩
  · rintro ⟨hregular, file, hfile, cause, hread, rfl⟩
    exact ⟨file, cause, names_iff.2 ⟨hregular, hfile⟩, hread, rfl⟩

/-- A file is invalid just where its content is refused. -/
theorem invalid_iff {f : LoadFault} :
    D.Invalid name f ↔
      D.Regular name ∧ contentFault? D.files D.path D.extensions name = some f := by
  simp only [contentFault?, Option.bind_eq_some_iff, faultOf_eq_some_iff, loadedOf?_eq_some_iff,
    LoadedFile.catalogue_eq_error_iff]
  constructor
  · rintro ⟨file, content, hnames, hread, hinvalid⟩
    obtain ⟨hregular, hfile⟩ := names_iff.1 hnames
    exact ⟨hregular, ⟨file, content⟩, ⟨hfile, hread⟩, hinvalid⟩
  · rintro ⟨hregular, loaded, ⟨hfile, hread⟩, hinvalid⟩
    exact ⟨loaded.file, loaded.content, names_iff.2 ⟨hregular, hfile⟩, hread, hinvalid⟩

/-- A name gives a catalogue just where its file holds messages. -/
theorem catalogueOf?_eq_some_iff {c : Catalogue} :
    D.Regular name ∧ catalogueOf? D.files D.path D.extensions name = some c ↔
      ∃ file ms, D.Holds name file ms ∧ c = file.catalogue ms := by
  simp only [catalogueOf?, Option.bind_eq_some_iff, toOption_eq_some_iff, loadedOf?_eq_some_iff,
    LoadedFile.catalogue_eq_ok_iff]
  constructor
  · rintro ⟨hregular, loaded, ⟨hfile, hread⟩, ms, hmessages, rfl⟩
    exact ⟨loaded.file, ms, ⟨names_iff.2 ⟨hregular, hfile⟩, loaded.content, hread, hmessages⟩, rfl⟩
  · rintro ⟨file, ms, ⟨hnames, content, hread, hmessages⟩, rfl⟩
    obtain ⟨hregular, hfile⟩ := names_iff.1 hnames
    exact ⟨hregular, ⟨file, content⟩, ⟨hfile, hread⟩, ms, hmessages, rfl⟩

/-- An accepted file that is not badly named states a domain and a locale. -/
theorem Accepted.exists_names (h : D.Accepted name) (hname : ∀ f, ¬ D.BadlyNamed name f) :
    ∃ file, D.Names name file := by
  cases hof : MessageFile.ofName name D.path D.extensions with
  | error f => exact absurd ⟨h, hof⟩ (hname f)
  | ok file? =>
    cases file? with
    | none =>
      -- its extension would not be accepted
      have hextension := h.2
      rw [ofName_eq_none_iff.1 hof] at hextension
      exact absurd hextension (by simp)
    | some file => exact ⟨file, h, hof⟩

/-- The files that are named well, in the order of their names. -/
def namedFiles (D : Directory) : List MessageFile :=
  (regularNames D.entries).filterMap (fileOf? D.path D.extensions)

/-- The message files of a directory are those that some name of it names. -/
theorem mem_namedFiles {file : MessageFile} :
    file ∈ D.namedFiles ↔ ∃ name, D.Names name file := by
  rw [namedFiles, List.mem_filterMap]
  simp only [mem_regularNames, names_iff]
  rfl

/-- The files of a directory that can be listed and has no bad name. -/
theorem mem_files_iff {files : List MessageFile}
    (h : messageFiles D.files D.path D.extensions = .ok files) {file : MessageFile} :
    file ∈ files ↔ ∃ name, D.Names name file := by
  rw [messageFiles_of_list D.listed] at h
  cases hfault : (regularNames D.entries).findSome? (nameFault? D.path D.extensions) with
  | some f =>
    rw [hfault] at h
    exact absurd h (by simp)
  | none =>
    rw [hfault] at h
    rw [← Except.ok.inj h]
    exact mem_namedFiles

/-! ### Faults -/

/-- A search along the names of a directory ends at the first that has something wrong with it. -/
theorem findSome?_eq_some_iff {p : String → LoadFault → Prop} {g : String → Option LoadFault}
    (hp : ∀ name f, p name f ↔ D.Regular name ∧ g name = some f) (f : LoadFault) :
    (regularNames D.entries).findSome? g = some f ↔ First p f := by
  rw [regularNames, Text.findSome?_sortNames]
  constructor
  · rintro ⟨name, hname, hf, hall⟩
    refine ⟨name, (hp name f).2 ⟨mem_regularNames.1 hname, hf⟩, fun other g' hother => ?_⟩
    obtain ⟨hregular, hg⟩ := (hp other g').1 hother
    exact hall other (mem_regularNames.2 hregular) (by rw [hg]; simp)
  · rintro ⟨name, hname, hall⟩
    obtain ⟨hregular, hf⟩ := (hp name f).1 hname
    refine ⟨name, mem_regularNames.2 hregular, hf, fun other hother hsome => ?_⟩
    obtain ⟨g', hg⟩ := Option.ne_none_iff_exists'.1 hsome
    exact hall other g' ((hp other g').2 ⟨mem_regularNames.1 hother, hg⟩)

/-- No name has a fault of a kind just where none is found. -/
theorem findSome?_eq_none_iff {p : String → LoadFault → Prop} {g : String → Option LoadFault}
    (hp : ∀ name f, p name f ↔ D.Regular name ∧ g name = some f) :
    (regularNames D.entries).findSome? g = none ↔ ∀ name f, ¬ p name f := by
  rw [List.findSome?_eq_none_iff]
  constructor
  · intro h name f hname
    obtain ⟨hregular, hf⟩ := (hp name f).1 hname
    rw [h name (mem_regularNames.2 hregular)] at hf
    exact absurd hf (by simp)
  · intro h name hname
    rw [Option.eq_none_iff_forall_ne_some]
    exact fun f hf => h name f ((hp name f).2 ⟨mem_regularNames.1 hname, hf⟩)

/-- The first fault of the earliest stage is the one that is reported. -/
theorem firstFault?_eq_some_iff (f : LoadFault) :
    firstFault? D.files D.path D.extensions (regularNames D.entries) = some f ↔ D.Refused f := by
  rw [firstFault?, Option.or_eq_some_iff, Option.or_eq_some_iff,
    findSome?_eq_some_iff fun _ _ => badlyNamed_iff,
    findSome?_eq_none_iff fun _ _ => badlyNamed_iff,
    findSome?_eq_some_iff fun _ _ => unreadable_iff,
    findSome?_eq_none_iff fun _ _ => unreadable_iff,
    findSome?_eq_some_iff fun _ _ => invalid_iff, Refused]
  constructor
  · rintro (h | ⟨hnames, h | ⟨hread, h⟩⟩)
    · exact Or.inl h
    · exact Or.inr (Or.inl ⟨hnames, h⟩)
    · exact Or.inr (Or.inr ⟨hnames, hread, h⟩)
  · rintro (h | ⟨hnames, h⟩ | ⟨hnames, hread, h⟩)
    · exact Or.inl h
    · exact Or.inr ⟨hnames, Or.inl h⟩
    · exact Or.inr ⟨hnames, Or.inr ⟨hread, h⟩⟩

/-- No stage has a fault just where nothing is wrong with any accepted file. -/
theorem firstFault?_eq_none_iff :
    firstFault? D.files D.path D.extensions (regularNames D.entries) = none ↔ D.Sound := by
  rw [firstFault?, Option.or_eq_none_iff, Option.or_eq_none_iff,
    findSome?_eq_none_iff fun _ _ => badlyNamed_iff,
    findSome?_eq_none_iff fun _ _ => unreadable_iff,
    findSome?_eq_none_iff fun _ _ => invalid_iff]
  constructor
  -- with none of the three faults an accepted file is named, read and understood
  · rintro ⟨hnames, hread, hcontent⟩ name haccepted
    obtain ⟨file, hfile⟩ := haccepted.exists_names (hnames name)
    cases hr : D.files.read file.path with
    | error cause => exact absurd ⟨file, cause, hfile, hr, rfl⟩ (hread name _)
    | ok content =>
      cases hmessages : readMessages content file.path with
      | error f => exact absurd ⟨file, content, hfile, hr, hmessages⟩ (hcontent name f)
      | ok ms => exact ⟨file, ms, hfile, content, hr, hmessages⟩
  -- and a file has one name and one content, so that soundness rules out each fault
  · intro hsound
    refine ⟨fun name f hbad => ?_, fun name f hbad => ?_, fun name f hbad => ?_⟩
    · obtain ⟨file, ms, ⟨⟨-, hname⟩, -⟩⟩ := hsound name hbad.1
      rw [hbad.2] at hname
      exact absurd hname (by simp)
    · obtain ⟨file, cause, hfile, hread, -⟩ := hbad
      obtain ⟨file', ms, hfile', content, hread', -⟩ := hsound name hfile.1
      rw [hfile.unique hfile', hread'] at hread
      exact absurd hread (by simp)
    · obtain ⟨file, content, hfile, hread, hinvalid⟩ := hbad
      obtain ⟨file', ms, hfile', content', hread', hmessages⟩ := hsound name hfile.1
      rw [hfile.unique hfile', hread'] at hread
      rw [← Except.ok.inj hread, hfile.unique hfile', hmessages] at hinvalid
      exact absurd hinvalid (by simp)

/-! ### The bag -/

/-- The message that the file of a name has, if its locale is the one given. -/
def messageOf? (D : Directory) (l : Locale) (domain id name : String) : Option String :=
  (catalogueOf? D.files D.path D.extensions name).bind fun c =>
    if c.locale = l then c.get? domain id else none

/-- A name says what a message is just where its file has the message. -/
theorem says_iff {l : Locale} {domain id template : String} :
    D.Says name l domain id template ↔
      D.Regular name ∧ D.messageOf? l domain id name = some template := by
  rw [messageOf?, Option.bind_eq_some_iff]
  constructor
  · rintro ⟨file, ms, hholds, rfl, hdomain, hmem⟩
    obtain ⟨hregular, hc⟩ := catalogueOf?_eq_some_iff.2 ⟨file, ms, hholds, rfl⟩
    obtain ⟨_, content, -, hmessages⟩ := hholds
    refine ⟨hregular, _, hc, ?_⟩
    rw [if_pos (file.locale_catalogue ms),
      file.get?_catalogue_eq_some_iff (nodup_of_readMessages hmessages)]
    exact ⟨hdomain, hmem⟩
  · rintro ⟨hregular, c, hc, hget⟩
    obtain ⟨file, ms, hholds, rfl⟩ := catalogueOf?_eq_some_iff.1 ⟨hregular, hc⟩
    have hnodup : (ms.map Prod.fst).Nodup := by
      obtain ⟨_, content, -, hmessages⟩ := hholds
      exact nodup_of_readMessages hmessages
    split at hget
    · next hl =>
      obtain ⟨hdomain, hmem⟩ := (file.get?_catalogue_eq_some_iff hnodup _ _ _).1 hget
      exact ⟨file, ms, hholds, (file.locale_catalogue ms).symm.trans hl, hdomain, hmem⟩
    · exact absurd hget (by simp)

/-- The bag of all files of the directory. -/
def bag (D : Directory) : Bag :=
  Bag.empty.insertList
    ((regularNames D.entries).filterMap (catalogueOf? D.files D.path D.extensions))

/-- The last catalogue that has a message is the first one from the end. -/
theorem template?_bag_eq_findSome? (D : Directory) (l : Locale) (domain id : String) :
    D.bag.template? l domain id
      = (regularNames D.entries).reverse.findSome? (D.messageOf? l domain id) := by
  rw [bag, Bag.template?_insertList, Bag.template?_empty, Option.or_none,
    ← List.filterMap_reverse, findSome?_filterMap]
  rfl

/-- The bag has the message of the last file that has one. -/
theorem template?_bag (D : Directory) (l : Locale) (domain id template : String) :
    D.bag.template? l domain id = some template ↔
      ∃ name, D.Says name l domain id template ∧
        ∀ other t, D.Says other l domain id t → Text.nameLe other name = true := by
  rw [template?_bag_eq_findSome?, regularNames, Text.findSome?_reverse_sortNames]
  constructor
  · rintro ⟨name, hname, hmessage, hall⟩
    refine ⟨name, says_iff.2 ⟨mem_regularNames.1 hname, hmessage⟩, fun other t hother => ?_⟩
    obtain ⟨hregular, ht⟩ := says_iff.1 hother
    exact hall other (mem_regularNames.2 hregular) (by rw [ht]; simp)
  · rintro ⟨name, hname, hall⟩
    obtain ⟨hregular, hmessage⟩ := says_iff.1 hname
    refine ⟨name, mem_regularNames.2 hregular, hmessage, fun other hother hsome => ?_⟩
    obtain ⟨t, ht⟩ := Option.ne_none_iff_exists'.1 hsome
    exact hall other t (says_iff.2 ⟨mem_regularNames.1 hother, ht⟩)

/-- In a sound directory the bag has the locales that its names state. -/
theorem has_bag (hsound : D.Sound) (l : Locale) :
    D.bag.has l = true ↔ ∃ name file, D.Names name file ∧ file.locale = l := by
  rw [bag, Bag.has_insertList]
  constructor
  · rintro (⟨c, hc, rfl⟩ | hempty)
    · obtain ⟨name, hname, hcatalogue⟩ := List.mem_filterMap.1 hc
      obtain ⟨file, ms, hholds, rfl⟩ :=
        catalogueOf?_eq_some_iff.1 ⟨mem_regularNames.1 hname, hcatalogue⟩
      exact ⟨name, file, hholds.1, (file.locale_catalogue ms).symm⟩
    · exact absurd hempty (by simp [Bag.has, Bag.empty, Dict.contains])
  · rintro ⟨name, file, hfile, rfl⟩
    obtain ⟨file', ms, hholds⟩ := hsound name hfile.1
    obtain ⟨hregular, hcatalogue⟩ := catalogueOf?_eq_some_iff.2 ⟨file', ms, hholds, rfl⟩
    refine Or.inl ⟨file'.catalogue ms, ?_, ?_⟩
    · exact List.mem_filterMap.2 ⟨name, mem_regularNames.2 hregular, hcatalogue⟩
    · rw [file'.locale_catalogue, hfile.unique hholds.1]

/-! ### Loading -/

/-- A directory is loaded as its bag, unless a name of it has a fault. -/
theorem answer_load (D : Directory) (clock : Clock) :
    (D.load clock).answer
      = (firstFault? D.files D.path D.extensions (regularNames D.entries)).elim (.ok D.bag)
          .error :=
  answer_loadBag D.listed clock D.extensions

/-- Loading fails with just the faults for which the directory is refused. -/
theorem answer_load_eq_error_iff (D : Directory) (clock : Clock) (f : LoadFault) :
    (D.load clock).answer = .error f ↔ D.Refused f := by
  rw [← firstFault?_eq_some_iff, answer_load]
  cases firstFault? D.files D.path D.extensions (regularNames D.entries) <;> simp

/-- Loading succeeds just where the directory is sound, and with its bag. -/
theorem answer_load_eq_ok_iff (D : Directory) (clock : Clock) (b : Bag) :
    (D.load clock).answer = .ok b ↔ D.Sound ∧ b = D.bag := by
  rw [← firstFault?_eq_none_iff, answer_load]
  cases firstFault? D.files D.path D.extensions (regularNames D.entries) <;> simp [eq_comm]

/-! ### Halves of surrogate pairs -/

/-- A name is never refused for half of a surrogate pair. -/
theorem not_badlyNamed_halfPair (path : String) : ¬ D.BadlyNamed name (.halfPair path) := by
  rintro ⟨-, hname⟩
  rw [MessageFile.ofName] at hname
  split at hname
  · exact absurd hname (by simp)
  · split at hname
    · exact absurd hname (by simp)
    · split at hname <;> exact absurd hname (by simp)

/-- Only a content that is not whole is refused for half of a surrogate pair. -/
theorem not_invalid_halfPair (h : D.Whole) (path : String) : ¬ D.Invalid name (.halfPair path) := by
  rintro ⟨file, content, hnames, hread, hinvalid⟩
  rcases readMessages_eq_error_iff.1 hinvalid with ⟨f, -, hreports⟩ | ⟨hcontent, -⟩
  · cases hreports
  · exact hcontent (h name file content hnames hread)

/-- A whole directory is never refused for half of a surrogate pair. -/
theorem not_refused_halfPair (h : D.Whole) (path : String) : ¬ D.Refused (.halfPair path) := by
  rintro (⟨name, hbad, -⟩ | ⟨-, name, hbad, -⟩ | ⟨-, -, name, hbad, -⟩)
  · exact not_badlyNamed_halfPair path hbad
  · obtain ⟨file, cause, -, -, hfault⟩ := hbad
    exact absurd hfault (by simp)
  · exact not_invalid_halfPair h path hbad

/-- Files without an escape for a unit are whole. -/
theorem whole_of_noUnitEscape (h : ∀ name file content, D.Names name file →
    D.files.read file.path = .ok content → NoUnitEscape content) : D.Whole :=
  fun name file content hnames hread => (h name file content hnames hread).wholeContent

/-- What is read as strings has none of these halves. -/
theorem Sound.whole (h : D.Sound) : D.Whole := by
  intro name file content hnames hread
  obtain ⟨file', ms, hnames', content', hread', hmessages⟩ := h name hnames.1
  obtain rfl := hnames.unique hnames'
  obtain rfl : content = content' := Except.ok.inj (hread.symm.trans hread')
  have hunits : messagesIn content = .ok (ms.map messageInUnits) :=
    readMessages_eq_ok_iff.1 hmessages
  exact (wholeContent_of_ok hunits).2 ⟨ms, mapM_messageInStrings?_iff.2 rfl⟩

/-! ### Every listing -/

/-- What is loaded depends on the listing only up to its order. -/
theorem load_congr (D D' : Directory) (hpath : D'.path = D.path)
    (hextensions : D'.extensions = D.extensions) (hentries : D'.entries.Perm D.entries)
    (hread : ∀ path, D'.files.read path = D.files.read path) (clock : Clock) :
    D'.load clock = D.load clock := by
  have hnames : regularNames D'.entries = regularNames D.entries :=
    Text.sortNames_congr ((hentries.filter _).map _)
  have hfiles : messageFiles D'.files D.path D.extensions
      = messageFiles D.files D.path D.extensions := by
    have hlisted' : D'.files.list D.path = .ok D'.entries := hpath ▸ D'.listed
    rw [messageFiles, messageFiles, hlisted', D.listed]
    show filesOfNames D.path D.extensions (regularNames D'.entries) = _
    rw [hnames]
  -- files are read one by one, so the same texts come back
  have hload : loadFiles D'.files = loadFiles D.files := by
    have hone : MessageFile.load D'.files = MessageFile.load D.files := by
      funext file
      rw [MessageFile.load, MessageFile.load, hread]
    funext files
    rw [loadFiles_eq_mapM, loadFiles_eq_mapM, hone]
  rw [load, load, loadBag, loadBag, hpath, hextensions, loadBagBy, loadBagBy, hfiles, hload]

/-- Loading a directory gives a bag just where nothing is wrong with any accepted file.  The bag has
    the locales that the files name and, under each id, the message of the last file that has one.
    Otherwise the first fault of the earliest stage is reported; it is one of half a surrogate pair
    only where the files are not whole.  The order in which the files are listed changes nothing. -/
theorem load_spec (D : Directory) (clock : Clock) :
    ((∃ b, (D.load clock).answer = .ok b) ↔ D.Sound) ∧
    (∀ b, (D.load clock).answer = .ok b →
      (∀ l, b.has l = true ↔ ∃ name file, D.Names name file ∧ file.locale = l) ∧
      (∀ l domain id template, b.template? l domain id = some template ↔
        ∃ name, D.Says name l domain id template ∧
          ∀ other t, D.Says other l domain id t → Text.nameLe other name = true)) ∧
    (∀ f, (D.load clock).answer = .error f ↔ D.Refused f) ∧
    ((∃ b, (D.load clock).answer = .ok b) → D.Whole) ∧
    (D.Whole → ∀ path, (D.load clock).answer ≠ .error (.halfPair path)) ∧
    (∀ D' : Directory, D'.path = D.path → D'.extensions = D.extensions →
      D'.entries.Perm D.entries → (∀ path, D'.files.read path = D.files.read path) →
      D'.load clock = D.load clock) := by
  refine ⟨?_, fun b hb => ?_, D.answer_load_eq_error_iff clock, ?_, fun hwhole path hpath => ?_,
    fun D' hpath hextensions hentries hread => ?_⟩
  · constructor
    · rintro ⟨b, hb⟩
      exact ((D.answer_load_eq_ok_iff clock b).1 hb).1
    · intro hsound
      exact ⟨D.bag, (D.answer_load_eq_ok_iff clock D.bag).2 ⟨hsound, rfl⟩⟩
  · obtain ⟨hsound, rfl⟩ := (D.answer_load_eq_ok_iff clock b).1 hb
    exact ⟨has_bag hsound, template?_bag D⟩
  · rintro ⟨b, hb⟩
    exact ((D.answer_load_eq_ok_iff clock b).1 hb).1.whole
  · exact not_refused_halfPair hwhole path ((D.answer_load_eq_error_iff clock _).1 hpath)
  · exact load_congr D D' hpath hextensions hentries hread clock

/-- The order in which the nodes of a tree are recorded changes nothing. -/
theorem load_reordered (D : Directory) {fs : Files} (h : fs.Reordered D.files) (clock : Clock) :
    loadBag fs clock D.path D.extensions = D.load clock := by
  obtain ⟨entries, hlisted, hperm⟩ := h.list D.listed
  let D' : Directory := ⟨fs, D.path, D.extensions, entries, hlisted⟩
  have hload : D'.load clock = D.load clock :=
    load_congr D D' rfl rfl hperm h.read clock
  exact hload

/-- Two files of one locale and domain, in two spellings, and a file of another kind. -/
def twoSpellings : Directory where
  files :=
    { nodes := ⟨[(["app".toList], .directory), (["srv".toList], .directory),
        (["srv".toList, "t".toList], .directory),
        (["srv".toList, "t".toList, "m.aa.json".toList],
          .file (.ok (Text.octets "\x7b\"a\":\"1\"\x7d".toList))),
        (["srv".toList, "t".toList, "notes.txt".toList], .file (.error "EIO")),
        (["srv".toList, "t".toList, "m.AA.JSON".toList],
          .file (.ok (Text.octets "\x7b\"a\":\"2\",\"b\":\"3\"\x7d".toList)))],
        by decide +kernel⟩
      home := ["app".toList] }
  path := "/srv/t"
  extensions := ["json"]
  entries := [⟨"m.aa.json", true⟩, ⟨"notes.txt", true⟩, ⟨"m.AA.JSON", true⟩]
  listed := toOption_eq_some_iff.1 (by decide +kernel)

/-- The later one of two names wins for the message that both files have. -/
theorem load_spec_twoSpellings :
    ∃ b, (twoSpellings.load ⟨.ofInt 0, []⟩).answer = .ok b ∧
      b.template? default "m" "a" = some "1" := by
  have hlower : twoSpellings.Holds "m.aa.json" ⟨"/srv/t/m.aa.json", "m", default⟩ [("a", "1")] := by
    refine ⟨names_iff.2 ⟨by simp [Regular, twoSpellings], by decide +kernel⟩,
      "\x7b\"a\":\"1\"\x7d", ?_, ?_⟩
    · exact toOption_eq_some_iff.1 (by decide +kernel)
    · exact toOption_eq_some_iff.1 (by decide +kernel)
  have hupper : twoSpellings.Holds "m.AA.JSON" ⟨"/srv/t/m.AA.JSON", "m", default⟩
      [("a", "2"), ("b", "3")] := by
    refine ⟨names_iff.2 ⟨by simp [Regular, twoSpellings], by decide +kernel⟩,
      "\x7b\"a\":\"2\",\"b\":\"3\"\x7d", ?_, ?_⟩
    · exact toOption_eq_some_iff.1 (by decide +kernel)
    · exact toOption_eq_some_iff.1 (by decide +kernel)
  have hnames : ∀ name, twoSpellings.Accepted name → name = "m.aa.json" ∨ name = "m.AA.JSON" := by
    rintro name ⟨hregular, hextension⟩
    simp only [Regular, twoSpellings, List.mem_cons, Files.Entry.mk.injEq, and_true,
      List.not_mem_nil, or_false] at hregular
    rcases hregular with rfl | rfl | rfl
    · exact Or.inl rfl
    · exact absurd hextension (by decide +kernel)
    · exact Or.inr rfl
  obtain ⟨hok, hbag, -⟩ := load_spec twoSpellings ⟨.ofInt 0, []⟩
  obtain ⟨b, hb⟩ := hok.2 fun name hname => by
    rcases hnames name hname with rfl | rfl
    · exact ⟨_, _, hlower⟩
    · exact ⟨_, _, hupper⟩
  refine ⟨b, hb, ((hbag b hb).2 default "m" "a" "1").2 ⟨"m.aa.json", ?_, ?_⟩⟩
  · exact ⟨_, _, hlower, rfl, rfl, List.mem_singleton.2 rfl⟩
  · rintro other t ⟨file, ms, hholds, -⟩
    rcases hnames other hholds.1.1 with rfl | rfl
    · exact Text.nameLe_refl _
    · decide +kernel

end Directory

end Phrasebook

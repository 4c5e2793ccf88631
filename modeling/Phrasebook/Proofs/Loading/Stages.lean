import Phrasebook.Loading
import Phrasebook.Proofs.Catalogue.Merge
import Phrasebook.Proofs.MessageContents
import Phrasebook.Proofs.Rows

namespace Phrasebook

/-!
# The stages of loading

Each stage of loading goes through its files in their order, and ends at the first one that has a
fault.

* `filesOfNames_eq_mapM`, `loadFiles_eq_mapM`, `answer_insertFiles`: the stages go through rows.
* `keyed_of_loadBagBy`: a bag that was loaded has its catalogues for their own locales.
* `MessageFile.get?_catalogue_eq_some_iff`: the catalogue of a file answers with its messages.
* `messageFiles_of_list`: the message files by the names of a directory.
* `answer_loadBag`: the first fault of the earliest stage that has one, or else the bag of all
  files, by the names of a directory.
-/

/-! ### Each stage -/

/-- Names are read one by one, and those that name no message file are left out. -/
theorem filesOfNames_eq_mapM (dir : String) (extensions names : List String) :
    filesOfNames dir extensions names
      = (names.mapM fun name => MessageFile.ofName name dir extensions).map (·.filterMap id) := by
  induction names with
  | nil => rfl
  | cons name names ih =>
    rw [filesOfNames, List.mapM_cons]
    cases MessageFile.ofName name dir extensions with
    | error f => rfl
    | ok file? =>
      cases hrest : names.mapM fun name => MessageFile.ofName name dir extensions with
      | error f => cases file? <;> simp only [ih, hrest] <;> rfl
      | ok files => cases file? <;> simp only [ih, hrest] <;> rfl

/-- Files are read one by one. -/
theorem loadFiles_eq_mapM (fs : Files) (files : List MessageFile) :
    loadFiles fs files = files.mapM (MessageFile.load fs) := by
  induction files with
  | nil => rfl
  | cons file files ih =>
    rw [loadFiles, List.mapM_cons, ih]
    cases file.load fs with
    | error f => rfl
    | ok loaded => cases files.mapM (MessageFile.load fs) <;> rfl

/-- A file is loaded with the content that is read at its path. -/
theorem MessageFile.load_eq_ok_iff {fs : Files} {file : MessageFile} {loaded : LoadedFile} :
    file.load fs = .ok loaded ↔ loaded.file = file ∧ fs.read file.path = .ok loaded.content := by
  obtain ⟨file', content⟩ := loaded
  rw [load]
  cases fs.read file.path <;> simp [eq_comm]

/-- Loading a file fails just where reading at its path does. -/
theorem MessageFile.load_eq_error_iff {fs : Files} {file : MessageFile} {f : LoadFault} :
    file.load fs = .error f ↔
      ∃ cause, fs.read file.path = .error cause ∧ f = .file file.path cause := by
  rw [load]
  cases fs.read file.path <;> simp [eq_comm]

/-- The catalogue of a file with its content. -/
def LoadedFile.catalogue (f : LoadedFile) : Except LoadFault Catalogue :=
  (readMessages f.content f.file.path).map f.file.catalogue

/-- A loaded file makes a catalogue just where its content is messages. -/
theorem LoadedFile.catalogue_eq_ok_iff {f : LoadedFile} {c : Catalogue} :
    f.catalogue = .ok c ↔
      ∃ ms, readMessages f.content f.file.path = .ok ms ∧ c = f.file.catalogue ms := by
  rw [catalogue]
  cases readMessages f.content f.file.path <;> simp [Except.map, eq_comm]

/-- It makes none just where its content is refused. -/
theorem LoadedFile.catalogue_eq_error_iff {f : LoadedFile} {e : LoadFault} :
    f.catalogue = .error e ↔ readMessages f.content f.file.path = .error e := by
  rw [catalogue]
  cases readMessages f.content f.file.path <;> simp [Except.map]

/-- Loaded files are put into a bag as catalogues, unless a content is refused. -/
theorem answer_insertFiles (b : Bag) (files : List LoadedFile) :
    (b.insertFiles files).answer = (files.mapM LoadedFile.catalogue).map b.insertList := by
  induction files generalizing b with
  | nil => rfl
  | cons f files ih =>
    rw [Bag.insertFiles, List.mapM_cons]
    cases hread : readMessages f.content f.file.path with
    | error e =>
      simp only [LoadedFile.catalogue, hread]
      rfl
    | ok ms =>
      simp only [LoadedFile.catalogue, hread, ih]
      cases files.mapM LoadedFile.catalogue <;> rfl

/-- A bag is loaded in three stages: names, files and contents. -/
theorem answer_loadBagBy (load : List MessageFile → Except LoadFault (List LoadedFile)) (fs : Files)
    (clock : Clock) (dir : String) (extensions : List String) :
    (loadBagBy load fs clock dir extensions).answer
      = ((messageFiles fs dir extensions).bind load).bind fun files =>
          (files.mapM LoadedFile.catalogue).map Bag.empty.insertList := by
  rw [loadBagBy]
  cases (messageFiles fs dir extensions).bind load with
  | error f => rfl
  | ok files =>
    show _ = (files.mapM LoadedFile.catalogue).map Bag.empty.insertList
    rw [← answer_insertFiles]
    cases hanswer : (Bag.empty.insertFiles files).answer with
    | error f => simp only [hanswer]
    | ok b => simp only [hanswer]

/-- A bag that was loaded has its catalogues for their own locales. -/
theorem keyed_of_loadBagBy {load : List MessageFile → Except LoadFault (List LoadedFile)}
    {fs : Files} {clock : Clock} {dir : String} {extensions : List String} {b : Bag}
    (h : (loadBagBy load fs clock dir extensions).answer = .ok b) : b.Keyed := by
  rw [answer_loadBagBy] at h
  cases hfiles : (messageFiles fs dir extensions).bind load with
  | error f =>
    rw [hfiles] at h
    exact absurd h (by simp [Except.bind])
  | ok files =>
    rw [hfiles] at h
    cases hcatalogues : files.mapM LoadedFile.catalogue with
    | error f =>
      simp only [Except.bind, hcatalogues] at h
      exact absurd h (by simp [Except.map])
    | ok cs =>
      simp only [Except.bind, hcatalogues] at h
      rw [← Except.ok.inj h]
      exact Bag.keyed_ofList cs

/-! ### The messages of a file -/

/-- The catalogue of a file is one for the locale that its name names. -/
@[simp] theorem MessageFile.locale_catalogue (file : MessageFile) (ms : List (String × String)) :
    (file.catalogue ms).locale = file.locale :=
  Catalogue.locale_insertAll _ _ _

/-- The catalogue of a file answers with the messages of the file. -/
theorem MessageFile.get?_catalogue_eq_some_iff (file : MessageFile) {ms : List (String × String)}
    (h : (ms.map Prod.fst).Nodup) (domain id template : String) :
    (file.catalogue ms).get? domain id = some template ↔
      file.domain = domain ∧ (id, template) ∈ ms := by
  rw [catalogue, Catalogue.get?_insertAll _ _ h, Catalogue.get?_new, Option.or_none]
  by_cases hd : domain = file.domain
  · rw [if_pos hd, lookupEntry_eq_some_iff h]
    simp [hd]
  · rw [if_neg hd]
    simp [Ne.symm hd]

/-! ### By the names of a directory -/

section

variable (fs : Files) (dir : String) (extensions : List String) (name : String)

/-- The message file that a name is. -/
def fileOf? : Option MessageFile :=
  (MessageFile.ofName name dir extensions).toOption.join

/-- The file of a name, with its content. -/
def loadedOf? : Option LoadedFile :=
  (fileOf? dir extensions name).bind fun file => (file.load fs).toOption

/-- The catalogue of the file of a name. -/
def catalogueOf? : Option Catalogue :=
  (loadedOf? fs dir extensions name).bind fun f => f.catalogue.toOption

/-- The fault of a name. -/
def nameFault? : Option LoadFault :=
  faultOf (MessageFile.ofName name dir extensions)

/-- The fault of reading the file of a name. -/
def readFault? : Option LoadFault :=
  (fileOf? dir extensions name).bind fun file => faultOf (file.load fs)

/-- The fault of the content of the file of a name. -/
def contentFault? : Option LoadFault :=
  (loadedOf? fs dir extensions name).bind fun f => faultOf f.catalogue

end

/-- A name stands for the message file that it is read as. -/
theorem fileOf?_eq_some_iff {dir : String} {extensions : List String} {name : String}
    {file : MessageFile} : fileOf? dir extensions name = some file ↔
      MessageFile.ofName name dir extensions = .ok (some file) := by
  rw [fileOf?, Option.join_eq_some_iff, toOption_eq_some_iff]

/-- A name gives the file that it names, with the content read there. -/
theorem loadedOf?_eq_some_iff {fs : Files} {dir : String} {extensions : List String}
    {name : String} {loaded : LoadedFile} : loadedOf? fs dir extensions name = some loaded ↔
      fileOf? dir extensions name = some loaded.file ∧
        fs.read loaded.file.path = .ok loaded.content := by
  rw [loadedOf?, Option.bind_eq_some_iff]
  simp only [toOption_eq_some_iff, MessageFile.load_eq_ok_iff]
  constructor
  · rintro ⟨file, hfile, rfl, hread⟩
    exact ⟨hfile, hread⟩
  · rintro ⟨hfile, hread⟩
    exact ⟨loaded.file, hfile, rfl, hread⟩

/-- The first fault of the earliest stage that has one. -/
def firstFault? (fs : Files) (dir : String) (extensions names : List String) : Option LoadFault :=
  (names.findSome? (nameFault? dir extensions)).or
    ((names.findSome? (readFault? fs dir extensions)).or
      (names.findSome? (contentFault? fs dir extensions)))

/-- The message files of a directory, or the fault of the first name that has one. -/
theorem messageFiles_of_list {fs : Files} {dir : String} {entries : List Files.Entry}
    (h : fs.list dir = .ok entries) (extensions : List String) :
    messageFiles fs dir extensions
      = ((regularNames entries).findSome? (nameFault? dir extensions)).elim
          (.ok ((regularNames entries).filterMap (fileOf? dir extensions))) .error := by
  generalize hnames : regularNames entries = names
  rw [messageFiles, h]
  show filesOfNames dir extensions (regularNames entries) = _
  rw [hnames, filesOfNames_eq_mapM, mapM_eq_findSome?]
  show Except.map _ (Option.elim (names.findSome? (nameFault? dir extensions)) _ _) = _
  cases names.findSome? (nameFault? dir extensions) with
  | some f => rfl
  | none =>
    show Except.ok ((names.filterMap _).filterMap id) = _
    rw [List.filterMap_filterMap]
    rfl

/-- A bag has the catalogues of all names, unless one of them has a fault. -/
theorem answer_loadBag {fs : Files} {dir : String} {entries : List Files.Entry}
    (h : fs.list dir = .ok entries) (clock : Clock) (extensions : List String) :
    (loadBag fs clock dir extensions).answer
      = (firstFault? fs dir extensions (regularNames entries)).elim
          (.ok (Bag.empty.insertList
            ((regularNames entries).filterMap (catalogueOf? fs dir extensions)))) .error := by
  have hfiles := messageFiles_of_list h extensions
  generalize regularNames entries = names at hfiles ⊢
  -- the row of each later stage comes from the names that passed the one before
  rw [loadBag, answer_loadBagBy, hfiles, firstFault?]
  cases names.findSome? (nameFault? dir extensions) with
  | some f => rfl
  | none =>
    show (loadFiles fs (names.filterMap (fileOf? dir extensions))).bind _ = _
    rw [loadFiles_eq_mapM, mapM_eq_findSome?, findSome?_filterMap, List.filterMap_filterMap]
    show (Option.elim (names.findSome? (readFault? fs dir extensions))
      (Except.ok (names.filterMap (loadedOf? fs dir extensions))) Except.error).bind _ = _
    cases names.findSome? (readFault? fs dir extensions) with
    | some f => rfl
    | none =>
      show ((names.filterMap (loadedOf? fs dir extensions)).mapM LoadedFile.catalogue).map
        Bag.empty.insertList = _
      rw [mapM_eq_findSome?, findSome?_filterMap, List.filterMap_filterMap]
      show Except.map _ (Option.elim (names.findSome? (contentFault? fs dir extensions))
        (Except.ok (names.filterMap (catalogueOf? fs dir extensions))) Except.error) = _
      cases names.findSome? (contentFault? fs dir extensions) <;> rfl

end Phrasebook

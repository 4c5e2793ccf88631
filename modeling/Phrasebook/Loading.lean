import Phrasebook.Bag
import Phrasebook.MessageContent
import Phrasebook.MessageFile
import Phrasebook.Timer

namespace Phrasebook

/-!
# Loading messages

All message files of a directory make one bag.  What the bag holds does not depend on the order in
which the directory lists them: they are taken in the order of their names.

* `messageFiles`: the message files of a directory.
* `fileIndex`: their paths, by the tag of the locale and by domain.
* `loadBag`: the bag they make; the first fault of the earliest stage ends it, where the stages are
  the listing, the names, the reading and the contents.
* `loadBagInParallel`: the same where all files are read at once, so that the fault of the reading
  that ended first is the one reported.
-/

/-- An answer, and what was done to the log on the way to it. -/
structure Logged (α : Type) where
  answer : α
  events : List LogEvent := []

/-! ### The files of a directory -/

/-- The message files with these names, in their order; names with other extensions are passed
    over. -/
def filesOfNames (dir : String) (extensions : List String) :
    List String → Except LoadFault (List MessageFile)
  | [] => .ok []
  | name :: names =>
    match MessageFile.ofName name dir extensions with
    | .error f => .error f
    | .ok none => filesOfNames dir extensions names
    | .ok (some file) => (filesOfNames dir extensions names).map (file :: ·)

/-- The names of the regular files among entries, in ascending order. -/
def regularNames (entries : List Files.Entry) : List String :=
  Text.sortNames ((entries.filter Files.Entry.isFile).map Files.Entry.name)

/-- The message files of a directory, in the order of their names. -/
def messageFiles (fs : Files) (dir : String) (extensions : List String) :
    Except LoadFault (List MessageFile) :=
  match fs.list dir with
  | .error cause => .error (.directory dir cause)
  | .ok entries => filesOfNames dir extensions (regularNames entries)

/-! ### The index -/

/-- Paths of files, by the tag of their locale and by domain. -/
abbrev FileIndex := Dict String (Dict String (List String))

/-- An index with a file put in, behind the files of its locale and domain. -/
def FileIndex.insert (index : FileIndex) (file : MessageFile) : FileIndex :=
  let domains := (index.get? file.locale.tag).getD Dict.empty
  let paths := (domains.get? file.domain).getD []
  Dict.insert index file.locale.tag (domains.insert file.domain (paths ++ [file.path]))

/-- The index of a list of files. -/
def FileIndex.ofFiles (files : List MessageFile) : FileIndex :=
  files.foldl FileIndex.insert Dict.empty

/-- The paths of the message files of a directory, by tag and domain. -/
def fileIndex (fs : Files) (dir : String) (extensions : List String) :
    Except LoadFault FileIndex :=
  (messageFiles fs dir extensions).map FileIndex.ofFiles

/-! ### Reading -/

/-- A file with its content. -/
structure LoadedFile where
  file : MessageFile
  content : String

/-- A file read. -/
def MessageFile.load (fs : Files) (file : MessageFile) : Except LoadFault LoadedFile :=
  match fs.read file.path with
  | .ok content => .ok ⟨file, content⟩
  | .error cause => .error (.file file.path cause)

/-- Files read one after another. -/
def loadFiles (fs : Files) : List MessageFile → Except LoadFault (List LoadedFile)
  | [] => .ok []
  | file :: files =>
    match file.load fs with
    | .error f => .error f
    | .ok loaded => (loadFiles fs files).map (loaded :: ·)

/-- What there is of files that are read at once: what has come in, in the place of each file, or
    the fault of the first reading that failed. -/
abbrev Gathered := Except LoadFault (List (Option LoadedFile))

/-- The reading of the file at a place ends.  After a fault nothing counts any more. -/
def Gathered.arrive (fs : Files) (files : List MessageFile) (g : Gathered) (place : Nat) :
    Gathered :=
  match g, files[place]? with
  | .ok slots, some file =>
    match file.load fs with
    | .ok loaded => .ok (slots.set place (some loaded))
    | .error f => .error f
  | g, _ => g

/-- Files read at once, where `ended` puts their places into the order in which the readings
    end. -/
def loadFilesInParallel (fs : Files) (ended : List Nat → List Nat) (files : List MessageFile) :
    Except LoadFault (List LoadedFile) :=
  ((ended (List.range files.length)).foldl (Gathered.arrive fs files)
    (.ok (files.map fun _ => none))).map fun slots => slots.filterMap id

/-! ### The bag -/

/-- The origin of the lines of loading. -/
def loaderOrigin : String := "LOADER"

/-- The line that tells of a file put into the bag. -/
def MessageFile.line (file : MessageFile) (messages : Nat) : Line where
  severity := .debug
  origin := loaderOrigin
  message := "Loaded translation file"
  context :=
    [("path", .text file.path), ("locale", .text file.locale.tag), ("domain", .text file.domain),
      ("messages", .number (.ofInt messages))]

/-- The catalogue of one file. -/
def MessageFile.catalogue (file : MessageFile) (messages : List (String × String)) : Catalogue :=
  Catalogue.insertAll { locale := file.locale } file.domain messages

/-- Files put into a bag one after another. -/
def Bag.insertFiles (b : Bag) : List LoadedFile → Logged (Except LoadFault Bag)
  | [] => { answer := .ok b }
  | f :: fs =>
    match readMessages f.content f.file.path with
    | .error fault => { answer := .error fault }
    | .ok messages =>
      let rest := (b.insert (f.file.catalogue messages)).insertFiles fs
      { rest with events := .line (f.file.line messages.length) :: rest.events }

/-- What loading is called in its line. -/
def loadOperation : String := "load-catalogues"

/-- The events at the end of loading. -/
def loadEnd (clock : Clock) (dir : String) (files : Nat) (b : Bag) : List LogEvent :=
  let (timer, clock) := Timer.begin clock (some loadOperation) (some loaderOrigin)
  (timer.finish clock
    [("dir", .text dir), ("files", .number (.ofInt files)),
      ("locales", .number (.ofInt b.size))]).2.1

/-- The bag that the message files of a directory make, given how files are read. -/
def loadBagBy (load : List MessageFile → Except LoadFault (List LoadedFile)) (fs : Files)
    (clock : Clock) (dir : String) (extensions : List String) : Logged (Except LoadFault Bag) :=
  match (messageFiles fs dir extensions).bind load with
  | .error f => { answer := .error f }
  | .ok files =>
    let r := Bag.empty.insertFiles files
    match r.answer with
    | .error _ => r
    | .ok b => { r with events := r.events ++ loadEnd clock dir files.length b }

/-- The bag that the message files of a directory make. -/
def loadBag (fs : Files) : Clock → String → List String → Logged (Except LoadFault Bag) :=
  loadBagBy (loadFiles fs) fs

/-- The bag that the message files of a directory make when they are read at once. -/
def loadBagInParallel (ended : List Nat → List Nat) (fs : Files) :
    Clock → String → List String → Logged (Except LoadFault Bag) :=
  loadBagBy (loadFilesInParallel fs ended) fs

end Phrasebook

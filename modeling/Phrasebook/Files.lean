import Phrasebook.Dict
import Phrasebook.Path
import Phrasebook.Text.Literal
import Phrasebook.Text.Octets

namespace Phrasebook

/-!
# Files

A directory tree, as far as loading messages can see it.

* `FileNode`: what stands at a path; `Files`: what stands where.
* `Files.resolve`: the place that a path leads to.
* `Files.list`: the names in a directory.
* `Files.read`: the text of a file.
* `Files.stands`: whether anything stands at a path.
* `Files.put`, `Files.remove`: the tree with something put at a path, and without what stands there.
* `FileFault`: why a path cannot be listed, read or written.
-/

/-- What stands at a path. -/
inductive FileNode
  /-- a regular file, with its octets, or the message with which reading it fails -/
  | file (content : Except String (List Nat))
  /-- a directory -/
  | directory
  /-- a link to another path -/
  | link (target : String)

/-- What stands at each path, by the names that lead there from the directory at the top, and the
    directory from which the paths that do not start at the top lead on. -/
structure Files where
  nodes : Dict (List (List Char)) FileNode := Dict.empty
  home : List (List Char) := []

/-- An operation on a path. -/
inductive FileCall
  | scandir
  | openFile
  | makeDirectory
  /-- a link to a target -/
  | makeLink (target : String)
  deriving DecidableEq, Repr

/-- Why a path cannot be listed, read or written. -/
inductive FileFault
  /-- nothing stands there -/
  | missing (call : FileCall) (path : String)
  /-- something other than a directory stands there or on the way -/
  | notDirectory (call : FileCall) (path : String)
  /-- links lead in a circle -/
  | circular (call : FileCall) (path : String)
  /-- the path, or a name in it, has too many octets -/
  | tooLong (call : FileCall) (path : String)
  /-- a null character stands in the path -/
  | nullCharacter (path : String)
  /-- a null character stands in the target of a link -/
  | nullInTarget (target : String)
  /-- a directory cannot be read as a file -/
  | isDirectory
  /-- a directory cannot be written as a file -/
  | directoryInPlace (path : String)
  /-- something stands where a directory is to be made -/
  | fileInPlace (path : String)
  /-- something stands where a link to a target is to be made -/
  | linkInPlace (target path : String)
  /-- the file states its own failure -/
  | stated (message : String)
  deriving DecidableEq, Repr

/-- An operation on a path, in words. -/
def FileCall.inWords : FileCall → String
  | scandir => "scandir"
  | openFile => "open"
  | makeDirectory => "mkdir"
  | makeLink target => "symlink '" ++ target ++ "' ->"

/-- An argument of an operation that has a null character, in words. -/
def nullInWords (argument text : String) : String :=
  "The argument '" ++ argument
    ++ "' must be a string, Uint8Array, or URL without null bytes. Received "
    ++ String.ofList (Text.excerpt text.toList)

/-- The fault of a path, in words. -/
def FileFault.inWords : FileFault → String
  | missing call path =>
    "ENOENT: no such file or directory, " ++ call.inWords ++ " '" ++ path ++ "'"
  | notDirectory call path => "ENOTDIR: not a directory, " ++ call.inWords ++ " '" ++ path ++ "'"
  | circular call path =>
    "ELOOP: too many symbolic links encountered, " ++ call.inWords ++ " '" ++ path ++ "'"
  | tooLong call path => "ENAMETOOLONG: name too long, " ++ call.inWords ++ " '" ++ path ++ "'"
  | nullCharacter path => nullInWords "path" path
  | nullInTarget target => nullInWords "target" target
  | isDirectory => "EISDIR: illegal operation on a directory, read"
  | directoryInPlace path => "EISDIR: illegal operation on a directory, open '" ++ path ++ "'"
  | fileInPlace path => "EEXIST: file already exists, mkdir '" ++ path ++ "'"
  | linkInPlace target path =>
    "EEXIST: file already exists, symlink '" ++ target ++ "' -> '" ++ path ++ "'"
  | stated message => message

/-- The kind of a fault, where it is not just a failure of the file system. -/
def FileFault.kind? : FileFault → Option String
  | nullCharacter _ => some "TypeError"
  | nullInTarget _ => some "TypeError"
  | _ => none

namespace Files

/-- The names that lead to a path. -/
abbrev Place := List (List Char)

/-- The tree without entries. -/
def empty : Files := {}

/-- A tree with nothing but a directory to work in and those above it. -/
def within (home : Place) : Files :=
  { nodes := (List.range home.length).foldl
      (fun nodes n => nodes.insert (home.take (n + 1)) .directory) Dict.empty
    home := home }

/-- What stands at a place; the place without names is the directory at the top. -/
def node? (fs : Files) (place : Place) : Option FileNode :=
  if place.isEmpty then some .directory else fs.nodes.get? place

/-- How many links may be followed on the way to a path. -/
def linkLimit : Nat := 40

/-- How many octets a name may have. -/
def nameLimit : Nat := 255

/-- How many octets a path may have. -/
def pathLimit : Nat := 4095

/-- The number of octets of a text. -/
def octetCount (s : List Char) : Nat :=
  (Text.octets s).length

/-- A reason why the way to a path ends before it. -/
inductive WayFault
  | missing
  | notDirectory
  | circular
  | tooLong
  | nullCharacter

/-- One dot, which leads nowhere else. -/
def dot : List Char := ['.']

/-- The names on the way of a path.  A slash at the end stands for one more dot: like a dot, it
    leads on from a directory only. -/
def steps (path : List Char) : List (List Char) :=
  (path.splitOnP (· == '/')).filter (· ≠ []) ++ (if path.getLast? == some '/' then [dot] else [])

/-- The place from which a path leads on: the top, if it starts with a slash. -/
def base (here : Place) (path : List Char) : Place :=
  if path.head? == some '/' then [] else here

/-- The place that a row of names leads to from a directory, links followed.  Where something is to
    be made, nothing needs to stand there yet.  The bound on the steps is the names to go, and those
    of every link that may be followed. -/
def follow (fs : Files) (make : Bool) (fuel links : Nat) (here : Place) :
    List (List Char) → Except WayFault Place
  | [] => .ok here
  | name :: names =>
    match fuel with
    | 0 => .error .circular
    | fuel + 1 =>
      if name = dot then follow fs make fuel links here names
      else if name = Path.up then follow fs make fuel links here.dropLast names
      else if nameLimit < octetCount name then .error .tooLong
      else
        match fs.node? (here ++ [name]) with
        | none => if make && names.isEmpty then .ok (here ++ [name]) else .error .missing
        | some (.file _) =>
          if names.isEmpty then .ok (here ++ [name]) else .error .notDirectory
        | some .directory => follow fs make fuel links (here ++ [name]) names
        | some (.link target) =>
          match links with
          | 0 => .error .circular
          | links + 1 =>
            let target := target.toList
            follow fs make fuel links (base here target) (steps target ++ names)

/-- The longest way that is followed. -/
def wayLimit : Nat := (pathLimit + 1) * (linkLimit + 1)

/-- The place that a path leads to.  A path of no characters leads nowhere. -/
def resolve (fs : Files) (path : String) : Except WayFault Place :=
  let cs := path.toList
  if cs.contains '\x00' then .error .nullCharacter
  else if pathLimit < octetCount cs then .error .tooLong
  else if cs.isEmpty then .error .missing
  else follow fs false wayLimit linkLimit (base fs.home cs) (steps cs)

/-- Whether anything stands at a path. -/
def stands (fs : Files) (path : String) : Bool :=
  match fs.resolve path with
  | .ok _ => true
  | .error _ => false

/-- The fault of a path whose way ends early. -/
def wayFault (call : FileCall) (path : String) : WayFault → FileFault
  | .missing => .missing call path
  | .notDirectory => .notDirectory call path
  | .circular => .circular call path
  | .tooLong => .tooLong call path
  | .nullCharacter => .nullCharacter path

/-! ### Changes -/

/-- The text of a path up to its last name, which is one dot where there is no other name. -/
def directoryPart (path : String) : String :=
  let above := (path.toList.reverse.dropWhile (· != '/')).drop 1
  if above.isEmpty then String.ofList dot else String.ofList above.reverse

/-- The place that a row of names leads to from a directory, with directories made where there is
    nothing; or the fault of the whole path, at which a directory was to be. -/
def makeAll (path : String) (fs : Files) (here : Place) :
    List (List Char) → Except FileFault (Files × Place)
  | [] => .ok (fs, here)
  | name :: names =>
    match fs.follow false wayLimit linkLimit here [name] with
    | .ok there =>
      match fs.node? there with
      | some .directory => makeAll path fs there names
      | _ =>
        .error (if names.isEmpty then .fileInPlace path else .notDirectory .makeDirectory path)
    | .error .missing =>
      match fs.node? (here ++ [name]) with
      | some _ => .error (.missing .makeDirectory path)
      | none =>
        let place := here ++ [name]
        makeAll path { fs with nodes := fs.nodes.insert place .directory } place names
    | .error f => .error (wayFault .makeDirectory path f)

/-- The tree with a directory at a path, and the place of that directory. -/
def withDirectory (fs : Files) (path : String) : Except FileFault (Files × Place) :=
  if path.toList.contains '\x00' then .error (.nullCharacter path)
  else makeAll path fs (base fs.home path.toList) (Path.parts (Path.normalize path.toList))

/-- What keeps a link from being made under a name, whatever stands there. -/
def targetFault? (path target : String) (name : List Char) : Option FileFault :=
  if target.toList.contains '\x00' then some (.nullInTarget target)
  else if target.isEmpty then some (.missing (.makeLink target) path)
  else if pathLimit < octetCount target.toList || nameLimit < octetCount name then
    some (.tooLong (.makeLink target) path)
  else none

/-- A tree with a node put at a path, and directories above it where there was nothing.  A file is
    written where the path leads, through links; a directory that is there stays; a link takes no
    place that is taken. -/
def put (fs : Files) (path : String) (n : FileNode) : Except FileFault Files := do
  let (fs, dir) ← fs.withDirectory (directoryPart path)
  if path.toList.contains '\x00' then throw (.nullCharacter path)
  let name := (Path.parts (Path.normalize path.toList)).getLast?.getD dot
  match n with
  | .file _ =>
    match fs.follow true wayLimit linkLimit dir [name] with
    | .error f => .error (wayFault .openFile path f)
    | .ok there =>
      match fs.node? there with
      | some .directory => .error (.directoryInPlace path)
      | _ => .ok { fs with nodes := fs.nodes.insert there n }
  | .directory => (fs.withDirectory path).map Prod.fst
  | .link target =>
    match targetFault? path target name with
    | some f => .error f
    | none =>
      match fs.node? (dir ++ [name]) with
      | none => .ok { fs with nodes := fs.nodes.insert (dir ++ [name]) n }
      | some _ => .error (.linkInPlace target path)

/-- The place of a path itself: links among the directories on the way are followed, but a link at
    its end is not. -/
def landing (fs : Files) (path : String) : Place :=
  let place := Path.parts (Path.normalize path.toList)
  let dir := place.dropLast.foldl (fun here name =>
    match fs.follow false wayLimit linkLimit here [name] with
    | .ok there => there
    | .error _ => here ++ [name]) (base fs.home path.toList)
  dir ++ place.getLast?.toList

/-- A tree without a path and all that stands under it. -/
def remove (fs : Files) (path : String) : Files :=
  let place := fs.landing path
  { fs with
    nodes := ⟨fs.nodes.entries.filter fun e => !place.isPrefixOf e.1,
      fs.nodes.nodup.sublist (List.filter_sublist.map _)⟩ }

/-! ### Views -/

/-- A name in a directory, and whether a regular file stands there. -/
structure Entry where
  name : String
  isFile : Bool
  deriving DecidableEq, Repr

/-- The name that a node adds to a directory, if it stands directly in it. -/
def entryIn? (dir : Place) (e : Place × FileNode) : Option Entry :=
  if e.1.dropLast = dir ∧ e.1 ≠ [] then
    e.1.getLast?.map fun name =>
      { name := String.ofList name
        isFile := match e.2 with
          | .file _ => true
          | _ => false }
  else none

/-- The names in a directory, in the order in which they were put there. -/
def list (fs : Files) (path : String) : Except FileFault (List Entry) :=
  match fs.resolve path with
  | .error f => .error (wayFault .scandir path f)
  | .ok place =>
    match fs.node? place with
    | some .directory => .ok (fs.nodes.entries.filterMap (entryIn? place))
    | some _ => .error (.notDirectory .scandir path)
    | none => .error (.missing .scandir path)

/-- The text of a file. -/
def read (fs : Files) (path : String) : Except FileFault String :=
  match fs.resolve path with
  | .error f => .error (wayFault .openFile path f)
  | .ok place =>
    match fs.node? place with
    | some (.file (.ok octets)) => .ok (String.ofList (Text.ofOctets octets))
    | some (.file (.error message)) => .error (.stated message)
    | some .directory => .error .isDirectory
    | _ => .error (.missing .openFile path)

end Files

end Phrasebook

import Phrasebook.Files
import Phrasebook.Settings.Environment
import Phrasebook.Vault

namespace Phrasebook

/-!
# Environment files

A file of assignments, `NAME=value` or `NAME: value`, one to a line, perhaps after `export`.  A
value may stand in quotes, and may then hold line ends; a comment runs from `#` to the end of its
line.  The variables of such a file are added before any setting is read, so they decide with what
settings a service is made.

* `EnvFile.assignment?`: one assignment, and the text after it.
* `EnvFile.assignments`: every assignment of a text.
* `Environment.withAssignments`: the environment with further assignments; variables that are there
  already win.
* `Environment.load`: the environment with the assignments of a file, or, where there is a key, with
  those of the vault beside it.
-/

namespace EnvFile

open Text (isBlank isLineEnd trimStart)

/-- Whether a character may stand in a name. -/
def isNameChar (c : Char) : Bool :=
  ('a' ≤ c && c ≤ 'z') || ('A' ≤ c && c ≤ 'Z') || ('0' ≤ c && c ≤ '9') || c == '_' || c == '.'
    || c == '-'

/-- Whether a character opens a quoted value. -/
def isQuote (c : Char) : Bool :=
  c == '\'' || c == '"' || c == '`'

/-! ### What may follow a value -/

/-- The last line end among the blanks at the start of a text, with what comes after it. -/
def lastLineEnd? : List Char → Option (List Char)
  | [] => none
  | c :: s =>
    if isBlank c then
      match lastLineEnd? s with
      | some r => some r
      | none => if isLineEnd c then some (c :: s) else none
    else none

/-- The text after a value and the blanks and the comment behind it; none where anything else
    stands on the rest of its line. -/
def endValue? (s : List Char) : Option (List Char) :=
  match trimStart s with
  | [] => some []
  | c :: t => if c = '#' then some (t.dropWhile fun c => !isLineEnd c) else lastLineEnd? s

/-! ### Values -/

/-- A quoted value: its characters up to a closing quote, and the text after that quote.  The first
    quote that no backslash escapes closes the value; if its line goes on after it, an escaped
    quote before it may close it instead, the last one first. -/
def quoted? (q : Char) : List Char → Option (List Char × List Char)
  | [] => none
  | c :: s =>
    if c = q then (endValue? s).map fun rest => ([], rest)
    else
      match c, s with
      | '\\', d :: t =>
        if d = q then
          match quoted? q t with
          | some (v, rest) => some (c :: d :: v, rest)
          | none => (endValue? t).map fun rest => ([c], rest)
        else (quoted? q (d :: t)).map fun p => (c :: p.1, p.2)
      | _, s => (quoted? q s).map fun p => (c :: p.1, p.2)

/-- The characters of a plain value: all up to a comment or the end of the line. -/
def isPlain (c : Char) : Bool :=
  c != '#' && c != '\n'

/-- A text with a pair of characters replaced by one wherever it stands. -/
def replacePair (a b by_ : Char) : List Char → List Char
  | [] => []
  | [c] => [c]
  | c :: d :: s =>
    if c = a ∧ d = b then by_ :: replacePair a b by_ s else c :: replacePair a b by_ (d :: s)

/-- A text with its written line ends made real. -/
def expand (s : List Char) : List Char :=
  replacePair '\\' 'r' '\r' (replacePair '\\' 'n' '\n' s)

/-- Whether a text is empty or goes on with a line end. -/
def endsLine : List Char → Bool
  | [] => true
  | c :: _ => isLineEnd c

/-- A text up to the last of these quotes that ends a line, and the text after that quote. -/
def lastClosing? (q : Char) : List Char → Option (List Char × List Char)
  | [] => none
  | c :: s =>
    match lastClosing? q s with
    | some (inside, rest) => some (c :: inside, rest)
    | none => if c = q ∧ endsLine s then some ([], s) else none

/-- What comes after the closing quotes is shorter than the text. -/
theorem length_lastClosing? {q : Char} {s inside rest : List Char}
    (h : lastClosing? q s = some (inside, rest)) : rest.length < s.length := by
  induction s generalizing inside rest with
  | nil => simp [lastClosing?] at h
  | cons c s ih =>
    unfold lastClosing? at h
    split at h
    · next v r hr =>
      simp only [Option.some.injEq, Prod.mk.injEq] at h
      rw [← h.2]
      exact Nat.lt_succ_of_lt (ih hr)
    · split at h
      · simp only [Option.some.injEq, Prod.mk.injEq] at h
        simp [← h.2]
      · simp at h

/-- A text without the quotes that its lines stand in.  A pair of quotes opens at the start of a
    line and closes at the end of one; of several ends the last one counts. -/
def unquoteFrom (atStart : Bool) : List Char → List Char
  | [] => []
  | c :: s =>
    match h : if atStart && isQuote c then lastClosing? c s else none with
    | none => c :: unquoteFrom (isLineEnd c) s
    | some (inside, rest) =>
      have : rest.length < s.length + 1 := by
        split at h
        · exact Nat.lt_succ_of_lt (length_lastClosing? h)
        · simp at h
      inside ++ unquoteFrom false rest
termination_by s => s.length

/-- A text without the quotes it stands in. -/
def unquote (s : List Char) : List Char :=
  unquoteFrom true s

/-- A value as it is meant, from the text between the sign and what follows the value. -/
def meant (s : List Char) : List Char :=
  let t := Text.trim s
  if t.head? == some '"' then expand (unquote t) else unquote t

/-- The value at the start of a text, and the text after it. -/
def value (s : List Char) : List Char × List Char :=
  let plain := (meant (s.takeWhile isPlain), (endValue? (s.dropWhile isPlain)).getD [])
  match trimStart s with
  | q :: t =>
    if isQuote q then
      match quoted? q t with
      | some (v, rest) => (meant (q :: (v ++ [q])), rest)
      | none => plain
    else plain
  | [] => plain

/-! ### Assignments -/

/-- The text after the sign between a name and a value. -/
def afterSign? (s : List Char) : Option (List Char) :=
  match trimStart s with
  | '=' :: t => some t
  | _ =>
    match s with
    | ':' :: c :: t => if isBlank c then some t else none
    | _ => none

/-- An assignment, and the text after it. -/
structure Assignment where
  name : List Char
  value : List Char
  rest : List Char

/-- The assignment that starts with its name. -/
def named? (s : List Char) : Option Assignment :=
  let name := s.takeWhile isNameChar
  if name.isEmpty then none
  else
    (afterSign? (s.dropWhile isNameChar)).map fun t =>
      { name := name, value := (value t).1, rest := (value t).2 }

/-- The word that may stand before an assignment. -/
def exportWord : List Char := "export".toList

/-- The assignment at the start of a text. -/
def assignment? (s : List Char) : Option Assignment :=
  let afterWord := s.drop exportWord.length
  let exported :=
    if s.take exportWord.length = exportWord && (afterWord.head?.map isBlank).getD false then
      named? (trimStart afterWord)
    else none
  exported.or (named? s)

/-- Every assignment of a text.  A line that is none is passed over.  The bound is the number of
    its characters, since each step takes one at least. -/
def assignmentsWithin : Nat → List Char → List (String × String)
  | 0, _ => []
  | n + 1, s =>
    match trimStart s with
    | [] => []
    | c :: t =>
      match assignment? (c :: t) with
      | some a =>
        (String.ofList a.name, String.ofList a.value) :: assignmentsWithin n a.rest
      | none => assignmentsWithin n ((c :: t).dropWhile fun c => !isLineEnd c)

/-- A text with every line end written as one character. -/
def unifyLineEnds : List Char → List Char
  | [] => []
  | '\r' :: '\n' :: s => '\n' :: unifyLineEnds s
  | '\r' :: s => '\n' :: unifyLineEnds s
  | c :: s => c :: unifyLineEnds s

/-- The one name that cannot be assigned. -/
def unassignable : String := "__proto__"

/-- Every assignment of a text. -/
def assignments (text : String) : List (String × String) :=
  let s := unifyLineEnds text.toList
  (assignmentsWithin (s.length + 1) s).filter fun a => a.1 ≠ unassignable

/-- The file that is read when none is named. -/
def usualPath : String := ".env"

/-- The variable that names the user's home directory. -/
def homeVariable : String := "HOME"

/-- Where a file is: a tilde at the start of its path stands for the user's home directory, if that
    is known. -/
def located? (env : Environment) (path : String) : Option String :=
  match path.toList with
  | '~' :: rest => (env.text? homeVariable).map fun home => Path.join home (String.ofList rest)
  | _ => some path

/-- The assignments of a file; a file that cannot be read has none. -/
def read (env : Environment) (fs : Files) (path : String) : List (String × String) :=
  match (located? env path).map fs.read with
  | some (.ok text) => assignments text
  | _ => []

/-! ### The vault beside a file -/

/-- How the path of a vault ends. -/
def vaultExtension : List Char := ".vault".toList

/-- The path of the vault beside a file; a vault is its own. -/
def vaultPath (path : String) : String :=
  if vaultExtension.isSuffixOf path.toList then path
  else String.ofList (path.toList ++ vaultExtension)

/-- The variable that holds the keys of the vault. -/
def keyVariable : String := "DOTENV_KEY"

/-- What is said where there is a key but no vault. -/
def vaultMissing : String :=
  "[dotenv@16.6.1][WARN] You set DOTENV_KEY but you are missing a .env.vault file at null. "
    ++ "Did you forget to build it?"

end EnvFile

namespace Environment

/-- The environment with further assignments, of which the last one for a name counts; variables
    that are there already win. -/
def withAssignments (env : Environment) (more : List (String × String)) : Environment :=
  (Dict.ofList more).entries.foldl
    (fun env a => if env.contains a.1 then env else env.insert a.1 (some a.2)) env

/-- The environment with the assignments of a file. -/
def withFile (env : Environment) (fs : Files) (path : String) : Environment :=
  env.withAssignments (EnvFile.read env fs path)

/-- What loading a file comes to. -/
structure Loaded where
  /-- the environment afterwards, also where a vault stays closed -/
  environment : Environment
  /-- why a vault stays closed, if it does -/
  fault : Option VaultFault := none
  /-- what is said to the user -/
  notices : List String := []

/-- The environment with the assignments of a vault, and then, if one of the keys opens it, with
    those of the text in it. -/
def withVault (env : Environment) (fs : Files) (path keys : String) : Loaded :=
  let stated := EnvFile.read env fs path
  let env := env.withAssignments stated
  match Vault.unlock (Dict.ofList stated).get? keys with
  | .ok text => { environment := env.withAssignments (EnvFile.assignments (String.ofList text)) }
  | .error f => { environment := env, fault := some f }

/-- The environment with the assignments of a file, which is the usual one where none is named.
    Where there are keys, the vault beside the file is opened in its place, if there is one. -/
def load (env : Environment) (fs : Files) (path : Option String) : Loaded :=
  let path := (path.filter fun p => !p.isEmpty).getD EnvFile.usualPath
  match env.stated? EnvFile.keyVariable with
  | none => { environment := env.withFile fs path }
  | some keys =>
    if fs.stands (EnvFile.vaultPath path) then env.withVault fs (EnvFile.vaultPath path) keys
    else { environment := env.withFile fs path, notices := [EnvFile.vaultMissing] }

end Environment

end Phrasebook

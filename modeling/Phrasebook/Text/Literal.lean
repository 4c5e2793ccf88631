import Phrasebook.Text.Units

namespace Phrasebook.Text

/-!
# Texts as literals

A text as it is shown where it is refused: between quotes, with the characters that cannot be seen
written as escapes.

* `literal`: a text between the quotes that it needs the fewest escapes in.
* `literalRows`: a long text line by line, each line a literal.
* `excerpt`: the start of what is shown, if that is long.
-/

/-- The quotes for a text: single ones, unless it holds one and none of another kind. -/
def quotesFor (s : List Char) : Char :=
  if !s.contains '\'' then '\''
  else if !s.contains '"' then '"'
  else if !s.contains '`' && !(s.zip s.tail).contains ('$', '{') then '`'
  else '\''

/-- A hexadecimal digit, in upper case. -/
def upperHexDigit (n : Nat) : Char :=
  if n < 10 then Char.ofNat ('0'.toNat + n) else Char.ofNat ('A'.toNat + (n - 10))

/-- Two hexadecimal digits. -/
def hexPair (n : Nat) : List Char :=
  [upperHexDigit (n / 16), upperHexDigit (n % 16)]

/-- A character as it stands between quotes. -/
def literalChar (quotes c : Char) : List Char :=
  let n := c.toNat
  if c = '\\' then ['\\', '\\']
  else if c = '\'' && quotes = '\'' then ['\\', '\'']
  else if c = '\n' then ['\\', 'n']
  else if c = '\t' then ['\\', 't']
  else if c = '\r' then ['\\', 'r']
  else if n = 8 then ['\\', 'b']
  else if n = 12 then ['\\', 'f']
  else if n < 0x20 || (0x7F ≤ n && n ≤ 0x9F) then '\\' :: 'x' :: hexPair n
  else [c]

/-- A text between quotes. -/
def literal (s : List Char) : List Char :=
  let quotes := quotesFor s
  quotes :: (s.flatMap (literalChar quotes) ++ [quotes])

/-- The lines of a text, each with the line feed that ends it. -/
def rows : List Char → List (List Char)
  | [] => []
  | c :: s =>
    if c = '\n' then [c] :: rows s
    else
      match rows s with
      | [] => [[c]]
      | r :: rs => (c :: r) :: rs

/-- How many units a text may have to be shown in one row. -/
def rowLimit : Nat := 124

/-- A text as a literal; a long one line by line, with a plus sign between the lines. -/
def literalRows (s : List Char) : List Char :=
  if unitCount s ≤ rowLimit then literal s
  else [' ', '+', '\n', ' ', ' '].intercalate ((rows s).map literal)

/-- The start of a text, `n` units long.  A character of which only the first half fits is replaced
    by U+FFFD. -/
def takeUnits : Nat → List Char → List Char
  | _, [] => []
  | n, c :: s =>
    if (charUnits c).length ≤ n then c :: takeUnits (n - (charUnits c).length) s
    else if n = 0 then []
    else ['\uFFFD']

/-- How many units of a literal are shown. -/
def excerptLimit : Nat := 128

/-- A text as a literal, cut off after its first units with three dots. -/
def excerpt (s : List Char) : List Char :=
  let shown := literalRows s
  if unitCount shown ≤ excerptLimit then shown
  else takeUnits excerptLimit shown ++ ['.', '.', '.']

example : String.ofList (literal "it's\n".toList) = "\"it's\\n\"" := by decide +kernel

end Phrasebook.Text

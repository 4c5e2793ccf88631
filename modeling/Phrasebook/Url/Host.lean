import Phrasebook.Text.Encoded
import Phrasebook.Url.Domain

namespace Phrasebook.Url

/-!
# Hosts

Which texts name a host.  In an address of a well-known scheme a host is a domain or a number, in
any other it is any text without separators; a number of the sixth version stands in brackets.  A
key to a vault whose host is none is refused before its password is read.

* `isHost`: whether a text is a host.
* `isVersion4`, `isVersion6`: the two kinds of numbers.
-/

/-- Whether a character is a hexadecimal digit. -/
def isHexDigit (c : Char) : Bool :=
  (Number.digit? 16 c).isSome

/-! ### Numbers of the fourth version -/

/-- The base that a part of a number is written to, and its digits. -/
def baseAndDigits : List Char → Nat × List Char
  | '0' :: 'x' :: s => (16, s)
  | '0' :: 'X' :: s => (16, s)
  | '0' :: c :: s => (8, c :: s)
  | s => (10, s)

/-- The value of a part of a number: to base 16 after `0x`, to base 8 after `0`. -/
def part? (s : List Char) : Option Nat :=
  if s.isEmpty then none
  else
    let (base, digits) := baseAndDigits s
    Number.valueAfter? base 0 digits

/-- The parts of a host between dots; a dot at the end counts for nothing. -/
def dotted (s : List Char) : List (List Char) :=
  let parts := s.splitOnP (· == '.')
  if parts.getLast? == some [] && 1 < parts.length then parts.dropLast else parts

/-- Whether a host ends in a number, and so has to be one. -/
def endsInNumber (s : List Char) : Bool :=
  match (dotted s).getLast? with
  | none => false
  | some last => (!last.isEmpty && last.all Number.isDigit) || (part? last).isSome

/-- Whether a text is a number of the fourth version: at most four parts, of which the last one
    takes the octets that the others leave. -/
def isVersion4 (s : List Char) : Bool :=
  let parts := dotted s
  match parts.mapM part? with
  | none => false
  | some ns =>
    ns.length ≤ 4 && ns.dropLast.all (· ≤ 255)
      && (ns.getLast?.getD 0 < Nat.pow 256 (5 - ns.length))

/-! ### Numbers of the sixth version -/

/-- Whether a text is a decimal octet without needless zeros. -/
def isPlainOctet (s : List Char) : Bool :=
  !s.isEmpty && s.all Number.isDigit && (s.length == 1 || s.head? != some '0')
    && Number.natOfDigits s ≤ 255

/-- Whether a text is four decimal octets between dots. -/
def isDottedQuad (s : List Char) : Bool :=
  let parts := s.splitOnP (· == '.')
  parts.length == 4 && parts.all isPlainOctet

/-- Whether a text completes a number of the sixth version, of which `left` pieces are to come;
    two colons, which stand for any number of zeros, may have been there. -/
def completesVersion6 : Nat → Bool → List Char → Bool
  | left, shortened, [] => shortened || left == 0
  | 0, _, _ :: _ => false
  | left + 1, shortened, ':' :: s => !shortened && completesVersion6 left true s
  | left + 1, shortened, s =>
    let digits := (s.take 4).takeWhile isHexDigit
    if digits.isEmpty then false
    else
      match s.drop digits.length with
      | [] => completesVersion6 left shortened []
      | '.' :: _ => 1 ≤ left && isDottedQuad s && (shortened || left == 1)
      | ':' :: t => !t.isEmpty && completesVersion6 left shortened t
      | _ => false

/-- Whether a text is a number of the sixth version. -/
def isVersion6 : List Char → Bool
  | ':' :: ':' :: s => completesVersion6 7 true s
  | ':' :: _ => false
  | s => completesVersion6 8 false s

example : isVersion6 "2001:db8::ff00:1.2.3.4".toList = true := by decide +kernel

example : isVersion6 "1:2:3:4:5:6:7".toList = false := by decide +kernel

/-! ### Hosts -/

/-- Characters that stand in no host. -/
def isSeparator (c : Char) : Bool :=
  ['\x00', '\t', '\n', '\r', ' ', '#', '/', ':', '<', '>', '?', '@', '[', '\\', ']', '^',
    '|'].contains c

/-- Characters that stand in no domain. -/
def isNotInDomain (c : Char) : Bool :=
  isSeparator c || c.toNat ≤ 0x1F || c == '%' || c == '\x7f'

/-- Whether a text is a domain or a number, once its percent signs are read. -/
def isDomain (s : List Char) : Bool :=
  match Domain.ofText? (Text.ofOctets (Text.percentDecode s)) with
  | none => false
  | some t => !t.isEmpty && !t.any isNotInDomain && (!endsInNumber t || isVersion4 t)

/-- Whether a text is a host, in an address of a well-known scheme or of another one. -/
def isHost (wellKnown : Bool) (s : List Char) : Bool :=
  if s.head? == some '[' then s.getLast? == some ']' && isVersion6 (s.drop 1).dropLast
  else if wellKnown then isDomain s
  else !s.any isSeparator

end Phrasebook.Url

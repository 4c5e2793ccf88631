import Phrasebook.Text.Composed
import Phrasebook.Url.DomainTable
import Phrasebook.Url.Punycode

namespace Phrasebook.Url

/-!
# Domains

A domain is a row of labels between dots.  Every spelling of a domain is taken for one with small
letters in composed form; a label with letters beyond ASCII is then written with plain letters.  The
host in the address of a key to a vault is one, under the schemes that are well known.

* `Domain.meant?`: the characters that a text is taken for.
* `Domain.isLabel`: whether a text may be a label as it stands.
* `Domain.ofText?`: the domain that a text names, in plain letters.
-/

namespace Domain

open Text (inRanges inRows?)
open DomainTable

/-! ### What characters are taken for -/

/-- The characters that a character is taken for, unless it stands in no domain. -/
def meantChar? (c : Char) : Option (List Char) :=
  let n := c.toNat
  if n < 0x80 then some [c.toLower]
  else if inRanges refused n then none
  else if inRanges ignored n then some []
  else
    match inRows? several n, inRows? single n, shifted.find? (·.holds n) with
    | some ns, _, _ => some (ns.map Char.ofNat)
    | none, some m, _ => some [Char.ofNat m]
    | none, none, some r => some [Char.ofNat ((n : Int) + r.shift).toNat]
    | none, none, none => some (Text.charLower c)

/-- The characters that a text is taken for, unless one of it stands in no domain. -/
def meant? (s : List Char) : Option (List Char) :=
  (s.mapM meantChar?).map fun cs => Text.composed cs.flatten

/-! ### How characters join -/

/-- The place that a mark takes which takes away the vowel of the letter before it. -/
def vowelKillerPlace : Nat := 9

/-- The sign that letters do not join. -/
def nonJoiner : Char := '\u200C'

/-- The sign that letters join. -/
def joiner : Char := '\u200D'

/-- Whether a character is one of the two signs. -/
def isJoiningSign (c : Char) : Bool :=
  c == nonJoiner || c == joiner

/-- Whether a sign may stand between two texts: after a letter without its vowel, or, if letters are
    not to join there, where some before it and some after it would. -/
def joiningSignFits (before : List Char) (sign : Char) (after : List Char) : Bool :=
  (before.getLast?.map fun c => Text.markPlace c.toNat) == some vowelKillerPlace
    || (sign == nonJoiner && before.any (fun c => inRanges joinsNext c.toNat)
      && after.any (fun c => inRanges joinsPrevious c.toNat))

/-! ### How characters run -/

/-- The direction in which a character is written. -/
inductive Direction
  | leftToRight
  | rightToLeft
  | arabicDigit
  | otherDigit
  /-- that of what the character stands on -/
  | attached
  | neutral
  deriving DecidableEq, Repr

/-- The direction in which a character of a label is written. -/
def directionOf (c : Char) : Direction :=
  let n := c.toNat
  if inRanges DomainTable.rightToLeft n then .rightToLeft
  else if inRanges arabicDigits n then .arabicDigit
  else if inRanges otherDigits n then .otherDigit
  else if inRanges DomainTable.attached n then .attached
  else if inRanges DomainTable.neutral n then .neutral
  else .leftToRight

/-- Whether characters may run beside each other.  A label with letters that are written from right
    to left has no others and digits of one kind only, and ends in a letter or a digit. -/
def runsTogether (ds : List Direction) : Bool :=
  if ds.contains .rightToLeft || ds.contains .arabicDigit then
    !ds.contains .leftToRight
      && !(ds.contains .arabicDigit && ds.contains .otherDigit)
      && (ds.reverse.dropWhile (· == .attached)).head? != some .neutral
  else ds.any (· != .attached)

/-! ### Labels -/

/-- Whether a text, which is already what it is taken for, may be a label.  Where it has a sign for
    joining, the first one decides. -/
def isLabel (s : List Char) : Bool :=
  match s with
  | [] => false
  | c :: _ =>
    if inRanges marks c.toNat then false
    else
      match s.span fun c => !isJoiningSign c with
      | (before, sign :: after) => joiningSignFits before sign after
      | (_, []) => runsTogether (s.map directionOf)

/-- How a label starts that is written with plain letters in place of others. -/
def encodedStart : List Char := "xn--".toList

/-- Whether plain letters stand for a label that needs them. -/
def isEncodedLabel (s : List Char) : Bool :=
  match Punycode.decode? s with
  | none => false
  | some t =>
    !encodedStart.isPrefixOf s && !t.all Punycode.isPlain && meant? t == some t && isLabel t

/-- A label in plain letters, if it is one. -/
def label? (s : List Char) : Option (List Char) :=
  if encodedStart.isPrefixOf s then
    if s.all Punycode.isPlain && isEncodedLabel (s.drop encodedStart.length) then some s else none
  else if s.all Punycode.isPlain then some s
  else if isLabel s then some (encodedStart ++ Punycode.encode s)
  else none

/-- The domain that a text names, in plain letters. -/
def ofText? (s : List Char) : Option (List Char) :=
  ((meant? s).bind fun t => (t.splitOnP (· == '.')).mapM label?).map fun ls => ['.'].intercalate ls

example : ofText? "Bücher.de".toList = some "xn--bcher-kva.de".toList := by decide +kernel

example : ofText? "\u0301a".toList = none := by decide +kernel

end Domain

end Phrasebook.Url

import Phrasebook.Catalogue

namespace Phrasebook

/-!
# Bags

A bag holds at most one catalogue for each locale.

* `Bag.insert`: a catalogue put in, merged into the one of its locale if there is one.
* `Bag.append`: every catalogue of another bag put in.
* `Bag.locales`: the locales that have a catalogue, in canonical order.
-/

/-- At most one catalogue for each locale. -/
structure Bag where
  catalogues : Dict Locale Catalogue := Dict.empty
  deriving DecidableEq

namespace Bag

/-- The bag without catalogues. -/
def empty : Bag := {}

/-- The catalogue of a locale. -/
def get? (b : Bag) (l : Locale) : Option Catalogue :=
  b.catalogues.get? l

/-- Whether a locale has a catalogue. -/
def has (b : Bag) (l : Locale) : Bool :=
  b.catalogues.contains l

/-- The number of catalogues. -/
def size (b : Bag) : Nat :=
  b.catalogues.size

/-- Whether there is no catalogue. -/
def isEmpty (b : Bag) : Bool :=
  b.size == 0

/-- The locales that have a catalogue, in canonical order. -/
def locales (b : Bag) : List Locale :=
  Locale.sort b.catalogues.keys

/-- A catalogue put in.  The bag keeps a copy of its own. -/
def insert (b : Bag) (c : Catalogue) : Bag :=
  ⟨b.catalogues.insert c.locale (((b.get? c.locale).getD { locale := c.locale }).merge c)⟩

/-- Catalogues put in one after another. -/
def insertList (b : Bag) (cs : List Catalogue) : Bag :=
  cs.foldl insert b

/-- The bag of a list of catalogues. -/
def ofList (cs : List Catalogue) : Bag :=
  empty.insertList cs

/-- Every catalogue of another bag put in. -/
def append (b other : Bag) : Bag :=
  b.insertList other.catalogues.values

/-- The template that a locale itself has under a domain and an id. -/
def template? (b : Bag) (l : Locale) (domain id : String) : Option String :=
  (b.get? l).bind fun c => c.get? domain id

end Bag

end Phrasebook

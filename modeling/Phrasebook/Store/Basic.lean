import Phrasebook.Resolution
import Phrasebook.Store.Arena

namespace Phrasebook

/-!
# The store

Catalogues, bags and resolvers that are shared by reference.  A bag keeps its catalogues in cells
of its own, so a catalogue taken from a bag is the bag's own and changes with it; a catalogue put
into a bag is copied.

* `Store`: everything that is referred to.
* `Store.bag?`: a bag as a value, with its catalogues as they are now.
* `Store.putInBag`, `Store.appendBag`: catalogues put into a bag.
* `Store.editCatalogue`: a catalogue changed where it is, be it a bag's or nobody's.
-/

/-- Where a bag keeps its catalogues. -/
structure HeldBag where
  catalogues : Dict Locale (Ref Catalogue) := Dict.empty

/-- What messages are resolved with: a bag, a fallback locale and a formatter. -/
structure Resolver where
  bag : Ref HeldBag
  fallback : Option Locale := none
  formatter : Formatter := .usual

/-- Everything that is referred to. -/
structure Store where
  catalogues : Arena Catalogue := {}
  bags : Arena HeldBag := {}
  resolvers : Arena Resolver := {}

namespace Store

/-- The store without anything in it. -/
def empty : Store := {}

/-! ### Catalogues -/

/-- A catalogue as it is now. -/
def catalogue? (s : Store) (r : Ref Catalogue) : Option Catalogue :=
  s.catalogues.get? r

/-- A new catalogue put in. -/
def addCatalogue (s : Store) (c : Catalogue) : Ref Catalogue × Store :=
  (s.catalogues.fresh, { s with catalogues := s.catalogues.push c })

/-- A catalogue changed where it is. -/
def editCatalogue (s : Store) (r : Ref Catalogue) (f : Catalogue → Catalogue) : Store :=
  { s with catalogues := s.catalogues.modify r f }

/-- The catalogues after one is added. -/
theorem catalogue?_addCatalogue (s : Store) (c : Catalogue) (r : Ref Catalogue) :
    (s.addCatalogue c).2.catalogue? r
      = if r = (s.addCatalogue c).1 then some c else s.catalogue? r :=
  s.catalogues.get?_push c r

/-- The catalogues after one is edited. -/
theorem catalogue?_editCatalogue (s : Store) (r r' : Ref Catalogue)
    (f : Catalogue → Catalogue) :
    (s.editCatalogue r f).catalogue? r'
      = if r' = r then (s.catalogue? r).map f else s.catalogue? r' :=
  s.catalogues.get?_modify r r' f

/-! ### Bags -/

/-- A bag as a value, given where it keeps its catalogues. -/
def bagOf (s : Store) (h : HeldBag) : Bag :=
  ⟨h.catalogues.mapEntries fun l r => (s.catalogue? r).getD { locale := l }⟩

/-- A bag as it is now. -/
def bag? (s : Store) (r : Ref HeldBag) : Option Bag :=
  (s.bags.get? r).map s.bagOf

/-- The catalogue of a locale that a bag itself keeps. -/
def heldCatalogue? (s : Store) (r : Ref HeldBag) (l : Locale) : Option (Ref Catalogue) :=
  (s.bags.get? r).bind fun h => h.catalogues.get? l

/-- A bag that keeps one more catalogue in a new cell. -/
def holdCatalogue (s : Store) (r : Ref HeldBag) (c : Catalogue) : Store :=
  let (cell, s) := s.addCatalogue c
  { s with bags := s.bags.modify r fun h => ⟨h.catalogues.insert c.locale cell⟩ }

/-- A catalogue put into a bag: merged into the one of its locale, or copied into a new cell. -/
def putInBag (s : Store) (r : Ref HeldBag) (c : Catalogue) : Store :=
  match s.heldCatalogue? r c.locale with
  | some cell => s.editCatalogue cell fun held => held.merge c
  | none => s.holdCatalogue r (Catalogue.merge { locale := c.locale } c)

/-- Catalogues put into a bag one after another. -/
def putAllInBag (s : Store) (r : Ref HeldBag) (cs : List Catalogue) : Store :=
  cs.foldl (fun s c => s.putInBag r c) s

/-- A new bag put in, with a cell for each of its catalogues. -/
def addBag (s : Store) (b : Bag) : Ref HeldBag × Store :=
  let r := s.bags.fresh
  (r, b.catalogues.values.foldl (fun s c => s.holdCatalogue r c)
    { s with bags := s.bags.push {} })

/-- Every catalogue of another bag put into a bag, which leaves the other one empty. -/
def appendBag (s : Store) (r other : Ref HeldBag) : Store :=
  let cs := ((s.bag? other).getD Bag.empty).catalogues.values
  let s := s.putAllInBag r cs
  { s with bags := s.bags.modify other fun _ => {} }

/-! ### Resolvers -/

/-- A resolver as it is now. -/
def resolver? (s : Store) (r : Ref Resolver) : Option Resolver :=
  s.resolvers.get? r

/-- A new resolver put in. -/
def addResolver (s : Store) (x : Resolver) : Ref Resolver × Store :=
  (s.resolvers.fresh, { s with resolvers := s.resolvers.push x })

/-- Another resolver put where one is. -/
def setResolver (s : Store) (r : Ref Resolver) (x : Resolver) : Store :=
  { s with resolvers := s.resolvers.set r x }

/-- The resolvers after one is set. -/
theorem resolver?_setResolver (s : Store) (r r' : Ref Resolver) (x : Resolver) :
    (s.setResolver r x).resolver? r'
      = if r' = r then (s.resolver? r).map fun _ => x else s.resolver? r' :=
  s.resolvers.get?_set r r' x

/-- The bag that a resolver looks into, as it is now. -/
def bagBehind (s : Store) (x : Resolver) : Bag :=
  (s.bag? x.bag).getD Bag.empty

end Store

end Phrasebook

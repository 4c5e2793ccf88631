import Phrasebook.Proofs.Store.Ownership

namespace Phrasebook.Store

/-!
# Stored bags as values

As long as no cell is held twice, what is done to a bag in a store is what is done to the value that
it is, and the other bags stay the values that they are.

* `get?_bagOf`, `bagOf_congr`: the catalogues of a bag decide what it is.
* `bag?_editCatalogue`, `bag?_holdCatalogue`: one catalogue of a bag changed, one more held.
* `bag?_putInBag`, `bag?_putAllInBag`, `bag?_appendBag`, `bag?_addBag`: what the operations on
  stored bags come to, each with a lemma on the bags that it leaves alone.
-/

/-! ### What a bag is -/

/-- A bag as a value has the catalogues that it holds. -/
theorem get?_bagOf (s : Store) (h : HeldBag) (l : Locale) :
    (s.bagOf h).get? l
      = (h.catalogues.get? l).map fun cell => (s.catalogue? cell).getD { locale := l } :=
  Dict.get?_mapEntries _ h.catalogues l

/-- A bag as a value has the locales that it has. -/
theorem keys_bagOf (s : Store) (h : HeldBag) :
    (s.bagOf h).catalogues.keys = h.catalogues.keys :=
  Dict.keys_mapEntries _ h.catalogues

/-- A bag with the locales of another one in the same order, and with its catalogues. -/
theorem bag_eq {b b' : Bag} (hkeys : b.catalogues.keys = b'.catalogues.keys)
    (h : ∀ l, b.get? l = b'.get? l) : b = b' := by
  have hcatalogues : b.catalogues = b'.catalogues := Dict.eq_of_get? hkeys h
  cases b
  cases b'
  congr

/-- Bags that hold their catalogues in the same cells are one value if the cells have the same
    catalogues. -/
theorem bagOf_congr {s t : Store} {h : HeldBag}
    (hcells : ∀ l cell, h.catalogues.get? l = some cell → t.catalogue? cell = s.catalogue? cell) :
    t.bagOf h = s.bagOf h := by
  refine bag_eq (by rw [keys_bagOf, keys_bagOf]) fun l => ?_
  rw [get?_bagOf, get?_bagOf]
  cases hcell : h.catalogues.get? l with
  | none => rfl
  | some cell => rw [Option.map_some, Option.map_some, hcells l cell hcell]

/-- A bag holds the catalogues that are filed in it. -/
theorem heldCatalogue?_eq {s : Store} {r : Ref HeldBag} {h : HeldBag}
    (hr : s.bags.get? r = some h) (l : Locale) : s.heldCatalogue? r l = h.catalogues.get? l := by
  rw [heldCatalogue?, hr]
  rfl

/-- A bag that keeps its cells, and whose cells keep their catalogues, stays the value that it
    is. -/
theorem bag?_eq_of_cells {s t : Store} {r : Ref HeldBag} (hbags : t.bags.get? r = s.bags.get? r)
    (hcells : ∀ l cell, s.heldCatalogue? r l = some cell →
      t.catalogue? cell = s.catalogue? cell) : t.bag? r = s.bag? r := by
  rw [bag?, bag?, hbags]
  cases hr : s.bags.get? r with
  | none => rfl
  | some h =>
    rw [Option.map_some, Option.map_some]
    refine congrArg some (bagOf_congr fun l cell hcell => hcells l cell ?_)
    rw [heldCatalogue?_eq hr, hcell]

/-! ### One catalogue -/

/-- A catalogue that a bag holds, changed where it is. -/
theorem bag?_editCatalogue {s : Store} (hs : s.Owned) {r : Ref HeldBag} {l : Locale}
    {cell : Ref Catalogue} (hcell : s.heldCatalogue? r l = some cell) (f : Catalogue → Catalogue) :
    (s.editCatalogue cell f).bag? r = (s.bag? r).map fun b =>
      ⟨b.catalogues.insert l (f ((b.get? l).getD { locale := l }))⟩ := by
  show (s.bags.get? r).map (s.editCatalogue cell f).bagOf = _
  rw [bag?]
  cases hr : s.bags.get? r with
  | none => rfl
  | some h =>
    -- the listing order stays, since the locale was listed already
    have hheld : h.catalogues.get? l = some cell := by rw [← heldCatalogue?_eq hr, hcell]
    obtain ⟨c, hc, -⟩ := hs.held r l cell hcell
    rw [Option.map_some, Option.map_some, Option.map_some]
    refine congrArg some (bag_eq ?_ fun k => ?_)
    · have hmem : l ∈ (s.bagOf h).catalogues.keys := by
        rw [keys_bagOf, ← Dict.contains_iff, Dict.contains, hheld]
        rfl
      rw [Dict.keys_insert, if_pos hmem, keys_bagOf, keys_bagOf]
    · rw [get?_bagOf, get?_bagOf, Bag.get?, Dict.get?_insert]
      by_cases hk : k = l
      -- the edited cell is the one held for this locale
      · subst hk
        rw [if_pos rfl, hheld, Option.map_some, Option.map_some, catalogue?_editCatalogue,
          if_pos rfl, hc]
        rfl
      · -- the bag holds another cell for every other locale
        rw [if_neg hk]
        show _ = (s.bagOf h).get? k
        rw [get?_bagOf]
        cases hcell' : h.catalogues.get? k with
        | none => rfl
        | some cell' =>
          have hne : cell' ≠ cell := by
            rintro rfl
            exact hk (hs.apart r k r l cell' (by rw [heldCatalogue?_eq hr, hcell']) hcell).2
          rw [Option.map_some, Option.map_some, catalogue?_editCatalogue, if_neg hne]

/-- The bags that do not hold the catalogue are left alone. -/
theorem bag?_editCatalogue_of_not_held {s : Store} {r : Ref HeldBag} {cell : Ref Catalogue}
    (hcell : ∀ l, s.heldCatalogue? r l ≠ some cell) (f : Catalogue → Catalogue) :
    (s.editCatalogue cell f).bag? r = s.bag? r := by
  refine bag?_eq_of_cells rfl fun l cell' hcell' => ?_
  -- the cell that is changed is none of this bag's
  rw [catalogue?_editCatalogue, if_neg]
  rintro rfl
  exact hcell l hcell'

/-- One more catalogue held. -/
theorem bag?_holdCatalogue {s : Store} (hs : s.Owned) (r : Ref HeldBag) (c : Catalogue) :
    (s.holdCatalogue r c).bag? r
      = (s.bag? r).map fun b => ⟨b.catalogues.insert c.locale c⟩ := by
  have hbags : (s.holdCatalogue r c).bags.get? r
      = (s.bags.get? r).map fun h => ⟨h.catalogues.insert c.locale s.catalogues.fresh⟩ :=
    (s.bags.get?_modify r r _).trans (if_pos rfl)
  rw [bag?, bag?, hbags]
  cases hr : s.bags.get? r with
  | none => rfl
  | some h =>
    simp only [Option.map_some]
    refine congrArg some (bag_eq ?_ fun k => ?_)
    · rw [keys_bagOf, Dict.keys_insert, Dict.keys_insert, keys_bagOf]
    · rw [get?_bagOf, Bag.get?, Dict.get?_insert, Dict.get?_insert]
      by_cases hk : k = c.locale
      · rw [if_pos hk, if_pos hk, Option.map_some, catalogue?_holdCatalogue, if_pos rfl]
        rfl
      · rw [if_neg hk, if_neg hk]
        show _ = (s.bagOf h).get? k
        rw [get?_bagOf]
        cases hcell : h.catalogues.get? k with
        | none => rfl
        | some cell =>
          have hne := hs.ne_fresh (by rw [heldCatalogue?_eq hr, hcell])
          rw [Option.map_some, Option.map_some, catalogue?_holdCatalogue, if_neg hne]

/-- Giving a bag a catalogue leaves the others as they are. -/
theorem bag?_holdCatalogue_of_ne {s : Store} (hs : s.Owned) {r r' : Ref HeldBag} (h : r' ≠ r)
    (c : Catalogue) : (s.holdCatalogue r c).bag? r' = s.bag? r' := by
  have hbags : (s.holdCatalogue r c).bags.get? r' = s.bags.get? r' :=
    (s.bags.get?_modify r r' _).trans (if_neg h)
  refine bag?_eq_of_cells hbags fun l cell hcell => ?_
  rw [catalogue?_holdCatalogue, if_neg (hs.ne_fresh hcell)]

/-! ### Catalogues put into a bag -/

/-- What is held in a bag is what the bag has. -/
theorem isSome_heldCatalogue? {s : Store} {r : Ref HeldBag} {b : Bag} (hb : s.bag? r = some b)
    (l : Locale) : (s.heldCatalogue? r l).isSome = (b.get? l).isSome := by
  obtain ⟨h, hr, rfl⟩ := Option.map_eq_some_iff.1 hb
  rw [heldCatalogue?_eq hr, get?_bagOf, Option.isSome_map]

/-- The catalogue is put into the bag as a value. -/
theorem bag?_putInBag {s : Store} (hs : s.Owned) (r : Ref HeldBag) (c : Catalogue) :
    (s.putInBag r c).bag? r = (s.bag? r).map fun b => b.insert c := by
  unfold putInBag
  split
  · next cell hcell => exact bag?_editCatalogue hs hcell _
  · next hnone =>
    -- what is not held is not in the bag, so the copy is merged into nothing
    rw [bag?_holdCatalogue hs]
    cases hb : s.bag? r with
    | none => rfl
    | some b =>
      have hget : b.get? c.locale = none := by
        rw [← Option.not_isSome_iff_eq_none, ← isSome_heldCatalogue? hb, hnone]
        simp
      rw [Option.map_some, Option.map_some, Catalogue.locale_merge, Bag.insert, hget]
      rfl

/-- The other bags are as they were. -/
theorem bag?_putInBag_of_ne {s : Store} (hs : s.Owned) {r r' : Ref HeldBag} (h : r' ≠ r)
    (c : Catalogue) : (s.putInBag r c).bag? r' = s.bag? r' := by
  unfold putInBag
  split
  · next cell hcell =>
    exact bag?_editCatalogue_of_not_held
      (fun l hl => h (hs.apart r' l r c.locale cell hl hcell).1) _
  · exact bag?_holdCatalogue_of_ne hs h _

/-- Several catalogues are put into the bag as a value. -/
theorem bag?_putAllInBag {s : Store} (hs : s.Owned) (r : Ref HeldBag) (cs : List Catalogue) :
    (s.putAllInBag r cs).bag? r = (s.bag? r).map fun b => b.insertList cs := by
  induction cs generalizing s with
  | nil => exact (Option.map_id' (x := s.bag? r)).symm
  | cons c cs ih =>
    have hstep : s.putAllInBag r (c :: cs) = (s.putInBag r c).putAllInBag r cs := rfl
    rw [hstep, ih (hs.putInBag r c), bag?_putInBag hs, Option.map_map]
    rfl

/-- The other bags are as they were. -/
theorem bag?_putAllInBag_of_ne {s : Store} (hs : s.Owned) {r r' : Ref HeldBag} (h : r' ≠ r)
    (cs : List Catalogue) : (s.putAllInBag r cs).bag? r' = s.bag? r' := by
  induction cs generalizing s with
  | nil => rfl
  | cons c cs ih =>
    have hstep : s.putAllInBag r (c :: cs) = (s.putInBag r c).putAllInBag r cs := rfl
    rw [hstep, ih (hs.putInBag r c), bag?_putInBag_of_ne hs h]

/-! ### One bag put into another -/

/-- The bags after one is emptied. -/
theorem bag?_emptied (s : Store) (r r' : Ref HeldBag) :
    bag? { s with bags := s.bags.modify r fun _ => {} } r'
      = if r' = r then (s.bag? r).map fun _ => Bag.empty else s.bag? r' := by
  show ((s.bags.modify r fun _ => {}).get? r').map s.bagOf = _
  rw [Arena.get?_modify]
  by_cases h : r' = r
  · rw [if_pos h, if_pos h, bag?, Option.map_map, Option.map_map]
    rfl
  · rw [if_neg h, if_neg h]
    rfl

/-- A bag that another one is appended to, or that is appended to itself. -/
theorem bag?_appendBag {s : Store} (hs : s.Owned) (r : Ref HeldBag) {other : Ref HeldBag} {b : Bag}
    (hb : s.bag? other = some b) :
    (s.appendBag r other).bag? r
      = if r = other then some Bag.empty else (s.bag? r).map fun a => a.append b := by
  unfold appendBag
  rw [bag?_emptied, hb, Option.getD_some]
  by_cases h : r = other
  · subst h
    rw [if_pos rfl, if_pos rfl, bag?_putAllInBag hs, hb]
    rfl
  · rw [if_neg h, if_neg h, bag?_putAllInBag hs]
    rfl

/-- The bag that was appended is empty afterwards. -/
theorem bag?_appendBag_other {s : Store} (hs : s.Owned) (r : Ref HeldBag) {other : Ref HeldBag}
    {b : Bag} (hb : s.bag? other = some b) : (s.appendBag r other).bag? other = some Bag.empty := by
  by_cases h : other = r
  · subst h
    rw [bag?_appendBag hs other hb, if_pos rfl]
  · unfold appendBag
    rw [bag?_emptied, if_pos rfl, bag?_putAllInBag_of_ne hs h, hb]
    rfl

/-- Putting a bag into another one leaves all further ones as they are. -/
theorem bag?_appendBag_of_ne {s : Store} (hs : s.Owned) {r other r' : Ref HeldBag} (h : r' ≠ r)
    (hother : r' ≠ other) : (s.appendBag r other).bag? r' = s.bag? r' := by
  unfold appendBag
  rw [bag?_emptied, if_neg hother, bag?_putAllInBag_of_ne hs h]

/-! ### A new bag -/

/-- A bag of a store has its catalogues for their own locales. -/
theorem Owned.keyed {s : Store} (hs : s.Owned) {r : Ref HeldBag} {b : Bag}
    (hb : s.bag? r = some b) : b.Keyed := by
  obtain ⟨h, hr, rfl⟩ := Option.map_eq_some_iff.1 hb
  intro l c hc
  rw [get?_bagOf] at hc
  obtain ⟨cell, hcell, rfl⟩ := Option.map_eq_some_iff.1 hc
  obtain ⟨c, hcat, hlocale⟩ := hs.held r l cell (by rw [heldCatalogue?_eq hr, hcell])
  rw [hcat]
  exact hlocale

/-- The bags after a new one is made. -/
theorem bag?_newBag (s : Store) (r : Ref HeldBag) :
    bag? { s with bags := s.bags.push {} } r
      = if r = s.bags.fresh then some Bag.empty else s.bag? r := by
  show ((s.bags.push {}).get? r).map s.bagOf = _
  rw [Arena.get?_push]
  by_cases h : r = s.bags.fresh
  · rw [if_pos h, if_pos h]
    rfl
  · rw [if_neg h, if_neg h]
    rfl

/-- Catalogues of different locales held one after another. -/
theorem bag?_holdAll {s : Store} (hs : s.Owned) (r : Ref HeldBag) (cs : List Catalogue) :
    (cs.foldl (fun s c => s.holdCatalogue r c) s).bag? r = (s.bag? r).map fun b =>
      ⟨b.catalogues.insertList (cs.map fun c => (c.locale, c))⟩ := by
  induction cs generalizing s with
  | nil => exact (Option.map_id' (x := s.bag? r)).symm
  | cons c cs ih =>
    rw [List.foldl_cons, ih (hs.holdCatalogue r c), bag?_holdCatalogue hs, Option.map_map]
    rfl

/-- Giving a bag several catalogues leaves the others as they are. -/
theorem bag?_holdAll_of_ne {s : Store} (hs : s.Owned) {r r' : Ref HeldBag} (h : r' ≠ r)
    (cs : List Catalogue) :
    (cs.foldl (fun s c => s.holdCatalogue r c) s).bag? r' = s.bag? r' := by
  induction cs generalizing s with
  | nil => rfl
  | cons c cs ih =>
    rw [List.foldl_cons, ih (hs.holdCatalogue r c), bag?_holdCatalogue_of_ne hs h]

/-- A new bag is the value that it was made from. -/
theorem bag?_addBag {s : Store} (hs : s.Owned) {b : Bag} (hb : b.Keyed) :
    (s.addBag b).2.bag? (s.addBag b).1 = some b := by
  show (b.catalogues.values.foldl (fun (t : Store) c => t.holdCatalogue s.bags.fresh c)
    { s with bags := s.bags.push {} }).bag? s.bags.fresh = some b
  rw [bag?_holdAll hs.newBag, bag?_newBag, if_pos rfl, Option.map_some, hb.map_values]
  exact congrArg (fun d => some (Bag.mk d)) (Dict.ofList_entries b.catalogues)

/-- Adding a bag leaves the others as they are. -/
theorem bag?_addBag_of_ne {s : Store} (hs : s.Owned) (b : Bag) {r : Ref HeldBag}
    (h : r ≠ (s.addBag b).1) : (s.addBag b).2.bag? r = s.bag? r := by
  have hne : r ≠ s.bags.fresh := h
  show (b.catalogues.values.foldl (fun (t : Store) c => t.holdCatalogue s.bags.fresh c)
    { s with bags := s.bags.push {} }).bag? r = s.bag? r
  rw [bag?_holdAll_of_ne hs.newBag hne, bag?_newBag, if_neg hne]

end Phrasebook.Store

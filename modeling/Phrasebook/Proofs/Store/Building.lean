import Phrasebook.Proofs.Catalogue.Views
import Phrasebook.Proofs.Resolution.Chain

namespace Phrasebook.Store

/-!
# Bags built and put together

In a store, too, what bags show is decided by the row of catalogues that went into them.

* `catalogue?_addBag`, `bag?_step_newBag`: a new bag leaves the catalogues as they are, and is the
  bag of those that it is made from.
* `view_bag?_congr`: what is to be seen of catalogues decides what is to be seen of bags.
* `view_step_putInBag_twice`: a catalogue put in twice.
* `view_appendBag_assoc`: three bags put together.
* `view_build_append`: a bag built from two rows of catalogues at once, and from two bags.
-/

/-! ### New bags -/

/-- A bag that is there is not the next one. -/
theorem ne_fresh_of_bag? {s : Store} {r : Ref HeldBag} {b : Bag} (h : s.bag? r = some b) :
    r ≠ s.bags.fresh := by
  obtain ⟨held, hr, -⟩ := Option.map_eq_some_iff.1 h
  exact Arena.ne_fresh hr

/-- Adding a bag leaves the catalogues that are there. -/
theorem catalogue?_addBag {s : Store} {cell : Ref Catalogue} {c : Catalogue}
    (h : s.catalogue? cell = some c) (b : Bag) : (s.addBag b).2.catalogue? cell = some c := by
  have hfold : ∀ (cs : List Catalogue) (r : Ref HeldBag) (t : Store), t.catalogue? cell = some c →
      (cs.foldl (fun (t : Store) c => t.holdCatalogue r c) t).catalogue? cell = some c := by
    intro cs r
    induction cs with
    | nil => exact fun _ ht => ht
    | cons d cs ih =>
      intro t ht
      refine ih (t.holdCatalogue r d) ?_
      rw [catalogue?_holdCatalogue, if_neg (Arena.ne_fresh ht), ht]
  exact hfold _ _ _ h

/-- A new bag is the bag of the catalogues that it is made from. -/
theorem bag?_step_newBag {s : Store} (hs : s.Owned) (cs : List (Ref Catalogue)) :
    (s.step (.newBag cs)).bag? s.bags.fresh = some (.ofList (cs.filterMap s.catalogue?)) :=
  bag?_addBag hs (Bag.keyed_ofList _)

/-- Making a new bag leaves the bags that are there. -/
theorem bag?_step_newBag_of_some {s : Store} (hs : s.Owned) {r : Ref HeldBag} {b : Bag}
    (hb : s.bag? r = some b) (cs : List (Ref Catalogue)) :
    (s.step (.newBag cs)).bag? r = some b :=
  (bag?_addBag_of_ne hs _ (ne_fresh_of_bag? hb)).trans hb

/-- Catalogues stay what they are when a bag is made. -/
theorem filterMap_step_newBag {s : Store} {cs : List (Ref Catalogue)}
    (h : ∀ c ∈ cs, (s.catalogue? c).isSome = true) (made : List (Ref Catalogue)) :
    cs.filterMap (s.step (.newBag made)).catalogue? = cs.filterMap s.catalogue? := by
  induction cs with
  | nil => rfl
  | cons c cs ih =>
    obtain ⟨cat, hcat⟩ := Option.isSome_iff_exists.1 (h c List.mem_cons_self)
    have hafter : (s.step (.newBag made)).catalogue? c = some cat := catalogue?_addBag hcat _
    rw [List.filterMap_cons, List.filterMap_cons, hcat, hafter,
      ih fun d hd => h d (List.mem_cons_of_mem c hd)]

/-- A bag of the store is put into another one of it. -/
theorem step_appendBag {s : Store} {a b : Ref HeldBag} {va vb : Bag} (ha : s.bag? a = some va)
    (hb : s.bag? b = some vb) : s.step (.appendBag a b) = s.appendBag a b := by
  rw [step, ha, hb]
  exact if_pos ⟨rfl, rfl⟩

/-! ### What is to be seen in a store -/

/-- What is to be seen of the catalogues decides what is to be seen of the bags. -/
theorem view_bag?_congr {s t : Store} (hbags : t.bags = s.bags)
    (h : ∀ cell, (t.catalogue? cell).map Catalogue.view = (s.catalogue? cell).map Catalogue.view)
    (r : Ref HeldBag) : (t.bag? r).map Bag.view = (s.bag? r).map Bag.view := by
  rw [bag?, bag?, hbags]
  cases s.bags.get? r with
  | none => rfl
  | some held =>
    have hlocales : (t.bagOf held).locales = (s.bagOf held).locales := by
      rw [Bag.locales, Bag.locales, keys_bagOf, keys_bagOf]
    have hcatalogues : ∀ l, ((t.bagOf held).get? l).map Catalogue.view
        = ((s.bagOf held).get? l).map Catalogue.view := by
      intro l
      rw [get?_bagOf, get?_bagOf]
      cases held.catalogues.get? l with
      | none => rfl
      | some cell =>
        have hview : ∀ u : Store, ((u.catalogue? cell).getD { locale := l }).view
            = ((u.catalogue? cell).map Catalogue.view).getD (Catalogue.view { locale := l }) :=
          fun u => (Option.getD_map Catalogue.view { locale := l } _).symm
        rw [Option.map_some, Option.map_some, Option.map_some, Option.map_some, hview, hview,
          h cell]
    rw [Option.map_some, Option.map_some, Option.map_some, Option.map_some, Bag.view, Bag.view,
      hlocales, funext hcatalogues]

/-! ### A catalogue put in twice -/

/-- A bag holds a catalogue that was put into it, merged into what was there. -/
theorem exists_held_putInBag {s : Store} (hs : s.Owned) {r : Ref HeldBag} {b : Bag}
    (hb : s.bag? r = some b) {cell : Ref Catalogue} {c : Catalogue}
    (hc : s.catalogue? cell = some c) : ∃ held was now,
      (s.putInBag r c).heldCatalogue? r c.locale = some held ∧
      (s.putInBag r c).catalogue? held = some (Catalogue.merge was c) ∧
      (s.putInBag r c).catalogue? cell = some now ∧ now.view = c.view ∧
      now.locale = c.locale := by
  unfold putInBag
  split
  · next held hheld =>
    obtain ⟨was, hwas, -⟩ := hs.held r c.locale held hheld
    have hafter : (s.editCatalogue held fun k => k.merge c).catalogue? held
        = some (was.merge c) := by
      rw [catalogue?_editCatalogue, if_pos rfl, hwas]
      rfl
    by_cases hcell : cell = held
    · -- the catalogue is the bag's own
      subst hcell
      have hsame : was = c := Option.some.inj (hwas.symm.trans hc)
      subst hsame
      exact ⟨cell, was, was.merge was, hheld, hafter, hafter, was.view_merge_self,
        Catalogue.locale_merge was was⟩
    -- another cell keeps what it had
    · refine ⟨held, was, c, hheld, hafter, ?_, rfl, rfl⟩
      rw [catalogue?_editCatalogue, if_neg hcell, hc]
  · -- the bag gets a cell of its own for the locale
    obtain ⟨h, hr, -⟩ := Option.map_eq_some_iff.1 hb
    refine ⟨s.catalogues.fresh, { locale := c.locale }, c, ?_, ?_, ?_, rfl, rfl⟩
    · rw [heldCatalogue?_holdCatalogue, Catalogue.locale_merge, if_pos ⟨rfl, rfl⟩, hr]
      rfl
    · rw [catalogue?_holdCatalogue, if_pos rfl]
    · rw [catalogue?_holdCatalogue, if_neg (Arena.ne_fresh hc), hc]

/-- A catalogue that is put in again right after it was put in changes nothing to be seen. -/
theorem view_step_putInBag_twice {s : Store} (hs : s.Owned) (r : Ref HeldBag)
    (cell : Ref Catalogue) :
    let t := s.step (.putInBag r cell)
    (∀ r', ((t.step (.putInBag r cell)).bag? r').map Bag.view = (t.bag? r').map Bag.view) ∧
      ∀ cell', ((t.step (.putInBag r cell)).catalogue? cell').map Catalogue.view
        = (t.catalogue? cell').map Catalogue.view := by
  intro t
  by_cases hidle : t = s
  · have hagain : t.step (.putInBag r cell) = t := by
      rw [hidle]
      exact hidle
    rw [hagain]
    exact ⟨fun _ => rfl, fun _ => rfl⟩
  · obtain ⟨b, c, hb, hc⟩ : ∃ b c, s.bag? r = some b ∧ s.catalogue? cell = some c := by
      -- without a bag or a catalogue the event changes nothing
      cases hb : s.bag? r with
      | none => exact absurd (by show s.step _ = s; rw [step, hb]; rfl) hidle
      | some b =>
        cases hc : s.catalogue? cell with
        | none => exact absurd (by show s.step _ = s; rw [step, hb, withCatalogue, hc]; rfl) hidle
        | some c => exact ⟨b, c, rfl, rfl⟩
    obtain ⟨held, was, now, hheld, hmerged, hnow, hview, hlocale⟩ := exists_held_putInBag hs hb hc
    have ht : t = s.putInBag r c := step_putInBag hb hc
    have hbag : t.bag? r = some (b.insert c) := by
      rw [ht, bag?_putInBag hs, hb]
      rfl
    have hagain : t.step (.putInBag r cell) = t.editCatalogue held fun k => k.merge now := by
      rw [step_putInBag hbag (ht ▸ hnow), putInBag, hlocale, ht, hheld]
    have hcatalogues : ∀ cell',
        ((t.step (.putInBag r cell)).catalogue? cell').map Catalogue.view
          = (t.catalogue? cell').map Catalogue.view := by
      intro cell'
      rw [hagain, catalogue?_editCatalogue]
      by_cases hcell' : cell' = held
      · rw [if_pos hcell', hcell', ht, hmerged]
        exact congrArg some (was.view_merge_merge hview)
      · rw [if_neg hcell']
    refine ⟨view_bag?_congr ?_ hcatalogues, hcatalogues⟩
    rw [hagain]
    rfl

/-! ### Three bags put together -/

/-- It does not matter in which order three bags are put together. -/
theorem view_appendBag_assoc {s : Store} (hs : s.Owned) {a b c : Ref HeldBag} (hab : a ≠ b)
    (hac : a ≠ c) (hbc : b ≠ c) (ha : (s.bag? a).isSome = true) (hb : (s.bag? b).isSome = true)
    (hc : (s.bag? c).isSome = true) :
    (((s.step (.appendBag a b)).step (.appendBag a c)).bag? a).map Bag.view
      = (((s.step (.appendBag b c)).step (.appendBag a b)).bag? a).map Bag.view := by
  obtain ⟨va, ha⟩ := Option.isSome_iff_exists.1 ha
  obtain ⟨vb, hb⟩ := Option.isSome_iff_exists.1 hb
  obtain ⟨vc, hc⟩ := Option.isSome_iff_exists.1 hc
  -- both orders are appends of the values the bags have at first
  have hleft : ((s.step (.appendBag a b)).step (.appendBag a c)).bag? a
      = some ((va.append vb).append vc) := by
    have howned := hs.appendBag a b
    have ha' : (s.appendBag a b).bag? a = some (va.append vb) := by
      rw [bag?_appendBag hs a hb, if_neg hab, ha]
      rfl
    have hc' : (s.appendBag a b).bag? c = some vc := by
      rw [bag?_appendBag_of_ne hs (Ne.symm hac) (Ne.symm hbc), hc]
    rw [step_appendBag ha hb, step_appendBag ha' hc', bag?_appendBag howned a hc', if_neg hac, ha']
    rfl
  have hright : ((s.step (.appendBag b c)).step (.appendBag a b)).bag? a
      = some (va.append (vb.append vc)) := by
    have howned := hs.appendBag b c
    have hb' : (s.appendBag b c).bag? b = some (vb.append vc) := by
      rw [bag?_appendBag hs b hc, if_neg hbc, hb]
      rfl
    have ha' : (s.appendBag b c).bag? a = some va := by
      rw [bag?_appendBag_of_ne hs hab hac, ha]
    rw [step_appendBag hb hc, step_appendBag ha' hb', bag?_appendBag howned a hb', if_neg hab, ha']
    rfl
  rw [hleft, hright]
  -- and an append of values is associative in what can be seen
  exact congrArg some (va.view_append_assoc (hs.keyed hb) (hs.keyed hc))

/-! ### A bag built at once and in two parts -/

/-- Of two rows of catalogues, one bag is made at once, and one by putting together the bags of the
    two rows. -/
theorem bags_build_append {s : Store} (hs : s.Owned) {xs ys : List (Ref Catalogue)}
    (h : ∀ c ∈ xs ++ ys, (s.catalogue? c).isSome = true) :
    let s₁ := s.step (.newBag (xs ++ ys))
    let s₂ := s₁.step (.newBag xs)
    let t := (s₂.step (.newBag ys)).step (.appendBag s₁.bags.fresh s₂.bags.fresh)
    t.bag? s.bags.fresh = some (.ofList ((xs ++ ys).filterMap s.catalogue?)) ∧
      t.bag? s₁.bags.fresh = some ((Bag.ofList (xs.filterMap s.catalogue?)).append
        (.ofList (ys.filterMap s.catalogue?))) := by
  intro s₁ s₂ t
  let s₃ := s₂.step (.newBag ys)
  have hs₁ : s₁.Owned := owned_step s _ hs
  have hs₂ : s₂.Owned := owned_step s₁ _ hs₁
  have hs₃ : s₃.Owned := owned_step s₂ _ hs₂
  -- the catalogues stay what they are
  have hxs : xs.filterMap s₁.catalogue? = xs.filterMap s.catalogue? :=
    filterMap_step_newBag (fun c hc => h c (List.mem_append_left ys hc)) _
  have hys : ys.filterMap s₂.catalogue? = ys.filterMap s.catalogue? := by
    have hys₁ : ys.filterMap s₁.catalogue? = ys.filterMap s.catalogue? :=
      filterMap_step_newBag (fun c hc => h c (List.mem_append_right xs hc)) _
    refine (filterMap_step_newBag (fun c hc => ?_) xs).trans hys₁
    obtain ⟨cat, hcat⟩ := Option.isSome_iff_exists.1 (h c (List.mem_append_right xs hc))
    have hcat₁ : s₁.catalogue? c = some cat := catalogue?_addBag hcat _
    rw [hcat₁]
    rfl
  -- the three bags, each left alone by what comes after it
  have hwhole : s₃.bag? s.bags.fresh = some (.ofList ((xs ++ ys).filterMap s.catalogue?)) :=
    bag?_step_newBag_of_some hs₂ (bag?_step_newBag_of_some hs₁ (bag?_step_newBag hs _) xs) ys
  have hleft : s₃.bag? s₁.bags.fresh = some (.ofList (xs.filterMap s.catalogue?)) := by
    rw [← hxs]
    exact bag?_step_newBag_of_some hs₂ (bag?_step_newBag hs₁ xs) ys
  have hright : s₃.bag? s₂.bags.fresh = some (.ofList (ys.filterMap s.catalogue?)) := by
    rw [← hys]
    exact bag?_step_newBag hs₂ ys
  have hwholeLeft : s.bags.fresh ≠ s₁.bags.fresh := ne_fresh_of_bag? (bag?_step_newBag hs _)
  have hwholeRight : s.bags.fresh ≠ s₂.bags.fresh :=
    ne_fresh_of_bag? (bag?_step_newBag_of_some hs₁ (bag?_step_newBag hs _) xs)
  have hleftRight : s₁.bags.fresh ≠ s₂.bags.fresh := ne_fresh_of_bag? (bag?_step_newBag hs₁ xs)
  have ht : t = s₃.appendBag s₁.bags.fresh s₂.bags.fresh := step_appendBag hleft hright
  rw [ht]
  constructor
  · rw [bag?_appendBag_of_ne hs₃ hwholeLeft hwholeRight, hwhole]
  · rw [bag?_appendBag hs₃ _ hright, if_neg hleftRight, hleft]
    rfl

/-- After every history, a bag made of two rows of catalogues, whatever those went through before,
    shows what the bags of the two rows show when they are put together: for each locale and domain
    the record of what the catalogues list there, one after another.  So it does not matter in which
    order three bags or three catalogues are merged, and a catalogue that is put in again right
    after it was put in changes nothing to be seen. -/
theorem view_build_append (es : List Event) (xs ys : List (Ref Catalogue))
    (h : ∀ c ∈ xs ++ ys, ((empty.run es).catalogue? c).isSome = true) :
    let s := empty.run es
    let s₁ := s.step (.newBag (xs ++ ys))
    let s₂ := s₁.step (.newBag xs)
    let t := (s₂.step (.newBag ys)).step (.appendBag s₁.bags.fresh s₂.bags.fresh)
    (∃ whole parts, t.bag? s.bags.fresh = some whole ∧ t.bag? s₁.bags.fresh = some parts ∧
      whole.view = parts.view ∧
      ∀ l domain, let lists := Bag.listedIn ((xs ++ ys).filterMap s.catalogue?) l domain
        (whole.getAll? l domain = none ↔ lists = []) ∧
        ∀ ms, whole.getAll? l domain = some ms → Members.Lists lists ms) ∧
    (∀ a b c, a ≠ b → a ≠ c → b ≠ c → (s.bag? a).isSome = true → (s.bag? b).isSome = true →
      (s.bag? c).isSome = true →
      (((s.step (.appendBag a b)).step (.appendBag a c)).bag? a).map Bag.view
        = (((s.step (.appendBag b c)).step (.appendBag a b)).bag? a).map Bag.view) ∧
    (∀ a b c : Catalogue, ((a.merge b).merge c).view = (a.merge (b.merge c)).view) ∧
    ∀ r cell, let once := s.step (.putInBag r cell)
      (∀ r', ((once.step (.putInBag r cell)).bag? r').map Bag.view
        = (once.bag? r').map Bag.view) ∧
      ∀ cell', ((once.step (.putInBag r cell)).catalogue? cell').map Catalogue.view
        = (once.catalogue? cell').map Catalogue.view := by
  intro s s₁ s₂ t
  have hs : s.Owned := owned_run es
  -- what the two bags are, by their catalogues
  obtain ⟨hwhole, hparts⟩ := bags_build_append hs h
  refine ⟨⟨_, _, hwhole, hparts, ?_, fun l domain => ?_⟩,
    fun a b c hab hac hbc => view_appendBag_assoc hs hab hac hbc, Catalogue.view_merge_assoc,
    view_step_putInBag_twice hs⟩
  · rw [List.filterMap_append]
    exact (Bag.view_append_ofList _ _).symm
  · rw [Bag.getAll?_ofList]
    constructor
    · simp
    · intro ms hms
      -- a domain that is listed comes from some catalogue
      have hrecord := (Option.ite_none_left_eq_some.1 hms).2
      rw [← Option.some.inj hrecord]
      exact Members.lists_ofList _

/-- An index comes first, and a name that two catalogues share keeps its place and takes its later
    value, after one of them lost a message. -/
theorem view_build_append_shared :
    let s := empty.run [.newCatalogue default [("m", [("b", "1"), ("10", "1")])],
      .newCatalogue default [("m", [("c", "2"), ("a", "2"), ("b", "2")])],
      .remove ⟨1⟩ "m" "a"]
    let s₁ := s.step (.newBag [⟨0⟩, ⟨1⟩])
    let s₂ := s₁.step (.newBag [⟨0⟩])
    let t := (s₂.step (.newBag [⟨1⟩])).step (.appendBag s₁.bags.fresh s₂.bags.fresh)
    (∀ c ∈ [⟨0⟩] ++ [⟨1⟩], (s.catalogue? c).isSome = true) ∧
      ∃ whole parts, t.bag? s.bags.fresh = some whole ∧ t.bag? s₁.bags.fresh = some parts ∧
        whole.view = parts.view ∧
        parts.getAll? default "m" = some [("10", "1"), ("b", "2"), ("c", "2")] := by
  intro s s₁ s₂ t
  have h : ∀ c ∈ [⟨0⟩] ++ [⟨1⟩], (s.catalogue? c).isSome = true := by decide +kernel
  obtain ⟨⟨whole, parts, hwhole, hparts, hview, -⟩, -⟩ := view_build_append _ [⟨0⟩] [⟨1⟩] h
  have hlist : (t.bag? s₁.bags.fresh).bind (fun b => b.getAll? default "m")
      = some [("10", "1"), ("b", "2"), ("c", "2")] := by decide +kernel
  have hbag : t.bag? s₁.bags.fresh = some parts := hparts
  rw [hbag, Option.bind_some] at hlist
  exact ⟨h, whole, parts, hwhole, hbag, hview, hlist⟩

end Phrasebook.Store

import Phrasebook.Proofs.Store.Building
import Phrasebook.Proofs.Store.History

namespace Phrasebook

/-!
# Bags and callers share no catalogues

A bag only ever keeps cells that were made for it, so a catalogue that nobody keeps stays so for
good, and what is done to it is not noticed by any bag.

* `Store.Loose`: a catalogue that no bag keeps; `Store.Loose.run`: it stays loose.
* `Store.givenBy`: the catalogues that a history gave to its callers; `Store.loose_givenBy`.
* `Store.Operand`: the bags that an event is about; `Store.Effect.bag?_of_not_operand`: it leaves
  every other bag alone.
* `Store.Effect.catalogue?_of_loose`: an event leaves a loose catalogue alone unless it edits it.
* `Store.Unnoticed`, `Store.Loose.unnoticed`: what is done to a loose catalogue is not noticed.
* `Store.Separate`, `Store.separate_run`: all of this after every history.
-/

namespace Store

/-! ### What comes after -/

/-- What holds of a store and a later one: what is there stays there, and what bags come to keep is
    new. -/
structure Later (s t : Store) : Prop where
  there : ∀ cell, (s.catalogue? cell).isSome = true → (t.catalogue? cell).isSome = true
  held : ∀ b l cell, t.heldCatalogue? b l = some cell →
    s.heldCatalogue? b l = some cell ∨ s.catalogue? cell = none

theorem Later.refl (s : Store) : s.Later s :=
  ⟨fun _ h => h, fun _ _ _ h => Or.inl h⟩

theorem Later.trans {s t u : Store} (h : s.Later t) (h' : t.Later u) : s.Later u where
  there cell hcell := h'.there cell (h.there cell hcell)
  held b l cell hcell := by
    rcases h'.held b l cell hcell with hheld | hnone
    · exact h.held b l cell hheld
    · -- what is not there later was not there before
      refine Or.inr (Option.not_isSome_iff_eq_none.1 fun hsome => ?_)
      exact absurd (h.there cell hsome) (by simp [hnone])

/-- Editing a catalogue. -/
theorem later_editCatalogue (s : Store) (cell : Ref Catalogue) (f : Catalogue → Catalogue) :
    s.Later (s.editCatalogue cell f) where
  there cell' h := by
    rw [catalogue?_editCatalogue]
    split
    · next heq => rw [Option.isSome_map, ← heq]; exact h
    · exact h
  held _ _ _ h := Or.inl h

/-- Adding a catalogue. -/
theorem later_addCatalogue (s : Store) (c : Catalogue) : s.Later (s.addCatalogue c).2 where
  there cell h := by
    rw [catalogue?_addCatalogue]
    split
    · rfl
    · exact h
  held _ _ _ h := Or.inl h

/-- Giving a bag a catalogue. -/
theorem later_holdCatalogue (s : Store) (r : Ref HeldBag) (c : Catalogue) :
    s.Later (s.holdCatalogue r c) where
  there cell h := by
    rw [catalogue?_holdCatalogue]
    split
    · rfl
    · exact h
  held b l cell h := by
    rw [heldCatalogue?_holdCatalogue] at h
    split at h
    · obtain ⟨_, -, rfl⟩ := Option.map_eq_some_iff.1 h
      exact Or.inr (Arena.get?_fresh s.catalogues)
    · exact Or.inl h

/-- Putting a catalogue into a bag. -/
theorem later_putInBag (s : Store) (r : Ref HeldBag) (c : Catalogue) :
    s.Later (s.putInBag r c) := by
  unfold putInBag
  split
  · exact later_editCatalogue s _ _
  · exact later_holdCatalogue s r _

/-- Putting catalogues into a bag. -/
theorem later_putAllInBag (s : Store) (r : Ref HeldBag) (cs : List Catalogue) :
    s.Later (s.putAllInBag r cs) := by
  induction cs generalizing s with
  | nil => exact .refl s
  | cons c cs ih => exact (later_putInBag s r c).trans (ih (s.putInBag r c))

/-- Putting a bag into another one. -/
theorem later_appendBag (s : Store) (r other : Ref HeldBag) : s.Later (s.appendBag r other) :=
  (later_putAllInBag s r _).trans
    ⟨fun _ h => h, fun _ _ _ h => Or.inl (heldCatalogue?_emptied h).2⟩

/-- Adding a bag. -/
theorem later_addBag (s : Store) (b : Bag) : s.Later (s.addBag b).2 := by
  have hfold : ∀ (cs : List Catalogue) (r : Ref HeldBag) (t : Store),
      t.Later (cs.foldl (fun t c => t.holdCatalogue r c) t) := by
    intro cs r
    induction cs with
    | nil => exact .refl
    | cons c cs ih => exact fun t => (later_holdCatalogue t r c).trans (ih (t.holdCatalogue r c))
  have hnew : s.Later { s with bags := s.bags.push {} } :=
    ⟨fun _ h => h, fun _ _ _ h => Or.inl (heldCatalogue?_newBag h)⟩
  exact hnew.trans (hfold _ _ _)

/-- Every event. -/
theorem Effect.later {s t : Store} {e : Event} (h : s.Effect e t) : s.Later t := by
  cases h with
  | idle hc hb =>
    refine ⟨fun cell hcell => ?_, fun b l cell hcell => Or.inl ?_⟩
    · rw [catalogue?, hc]
      exact hcell
    · rw [heldCatalogue?, hb] at hcell
      exact hcell
  | made c => exact later_addCatalogue s c
  | edited he hf => exact later_editCatalogue s _ _
  | bagged cs b => exact later_addBag s b
  | put r c cat => exact later_putInBag s r cat
  | appended r other => exact later_appendBag s r other

/-- Every history. -/
theorem later_run (s : Store) (es : List Event) : s.Later (s.run es) :=
  run_induction (fun t e h => h.trans (effect_step t e).later) (.refl s) es

/-! ### Catalogues that no bag keeps -/

/-- A catalogue that is there and that no bag keeps. -/
structure Loose (s : Store) (cell : Ref Catalogue) : Prop where
  there : (s.catalogue? cell).isSome = true
  unheld : ∀ b l, s.heldCatalogue? b l ≠ some cell

/-- What nobody keeps is kept by nobody later. -/
theorem Loose.later {s t : Store} {cell : Ref Catalogue} (h : s.Loose cell) (ht : s.Later t) :
    t.Loose cell where
  there := ht.there cell h.there
  unheld b l hheld := by
    rcases ht.held b l cell hheld with hbefore | hnone
    · exact h.unheld b l hbefore
    · exact absurd h.there (by simp [hnone])

/-- A loose catalogue stays loose. -/
theorem Loose.run {s : Store} {cell : Ref Catalogue} (h : s.Loose cell) (es : List Event) :
    (s.run es).Loose cell :=
  h.later (later_run s es)

/-- A loose catalogue is not the next one. -/
theorem Loose.ne_fresh {s : Store} {cell : Ref Catalogue} (h : s.Loose cell) :
    cell ≠ s.catalogues.fresh := by
  obtain ⟨c, hc⟩ := Option.isSome_iff_exists.1 h.there
  exact Arena.ne_fresh hc

/-- The catalogues that an event gives to its caller. -/
def given (s : Store) : Event → List (Ref Catalogue)
  | .newCatalogue _ _ => [s.catalogues.fresh]
  | .cloneCatalogue c => if (s.catalogue? c).isSome then [s.catalogues.fresh] else []
  | _ => []

/-- The catalogues that a history gives to its callers. -/
def givenBy (s : Store) : List Event → List (Ref Catalogue)
  | [] => []
  | e :: es => s.given e ++ (s.step e).givenBy es

/-- A catalogue that is added is loose. -/
theorem Owned.loose_addCatalogue {s : Store} (hs : s.Owned) (c : Catalogue) :
    (s.addCatalogue c).2.Loose s.catalogues.fresh where
  there := by
    rw [catalogue?_addCatalogue]
    exact congrArg Option.isSome (if_pos rfl)
  unheld _ _ hheld := hs.ne_fresh hheld rfl

/-- A new catalogue of a caller is kept by nobody. -/
theorem Owned.loose_given {s : Store} (hs : s.Owned) {e : Event} {cell : Ref Catalogue}
    (h : cell ∈ s.given e) : (s.step e).Loose cell := by
  cases e with
  | newCatalogue l domains =>
    obtain rfl := List.mem_singleton.1 h
    exact hs.loose_addCatalogue _
  | cloneCatalogue c =>
    cases hc : s.catalogue? c with
    | none => exact absurd h (by simp [given, hc])
    | some cat =>
      have hfresh : cell = s.catalogues.fresh := by simpa [given, hc] using h
      subst hfresh
      rw [step, withCatalogue, hc]
      exact hs.loose_addCatalogue _
  | _ => exact absurd h List.not_mem_nil

/-- The catalogues of callers are never kept by a bag. -/
theorem Owned.loose_givenBy {s : Store} (hs : s.Owned) {es : List Event} {cell : Ref Catalogue}
    (h : cell ∈ s.givenBy es) : (s.run es).Loose cell := by
  induction es generalizing s with
  | nil => exact absurd h List.not_mem_nil
  | cons e es ih =>
    -- it was given by this event, or by a later one
    rcases List.mem_append.1 h with hnew | hlater
    · exact (hs.loose_given hnew).run es
    · exact ih (owned_step s e hs) hlater

/-- A bag that was put into another one lets go of its catalogues. -/
theorem Owned.loose_appendBag {s : Store} (hs : s.Owned) (r other : Ref HeldBag) {l : Locale}
    {cell : Ref Catalogue} (h : s.heldCatalogue? other l = some cell) :
    (s.appendBag r other).Loose cell := by
  obtain ⟨c, hc, -⟩ := hs.held other l cell h
  refine ⟨(later_appendBag s r other).there cell (by rw [hc]; rfl), fun b k hheld => ?_⟩
  obtain ⟨hne, -⟩ := heldCatalogue?_emptied hheld
  rcases (later_appendBag s r other).held b k cell hheld with hbefore | hnone
  · -- no other bag kept it
    exact hne (hs.apart b k other l cell hbefore h).1
  · exact absurd hc (by simp [hnone])

end Store

/-! ### What an event leaves alone -/

/-- The bags that an event names. -/
def Event.bags : Event → List (Ref HeldBag)
  | .putInBag b _ => [b]
  | .appendBag b other => [b, other]
  | _ => []

namespace Store

/-- A bag is what an event is about: the event names it, or edits a catalogue that it keeps. -/
def Operand (s : Store) (r : Ref HeldBag) (e : Event) : Prop :=
  r ∈ e.bags ∨ ∃ cell l, e.edited = some cell ∧ s.heldCatalogue? r l = some cell

/-- Adding a catalogue leaves all bags as they are. -/
theorem bag?_addCatalogue {s : Store} (hs : s.Owned) (c : Catalogue) (r : Ref HeldBag) :
    (s.addCatalogue c).2.bag? r = s.bag? r := by
  refine bag?_eq_of_cells rfl fun l cell hcell => ?_
  rw [catalogue?_addCatalogue]
  exact if_neg (hs.ne_fresh hcell)

/-- An event leaves alone the bags that it is not about. -/
theorem Effect.bag?_of_not_operand {s t : Store} {e : Event} (h : s.Effect e t) (hs : s.Owned)
    {r : Ref HeldBag} {b : Bag} (hb : s.bag? r = some b) (hr : ¬ s.Operand r e) :
    t.bag? r = some b := by
  cases h with
  | idle hc hbags => rw [bag?_congr hc hbags, hb]
  | made c => rw [bag?_addCatalogue hs, hb]
  | edited he hf =>
    rw [bag?_editCatalogue_of_not_held (fun l hheld => hr (Or.inr ⟨_, l, he, hheld⟩)), hb]
  | bagged cs new => rw [bag?_addBag_of_ne hs new (ne_fresh_of_bag? hb), hb]
  | put r' c cat =>
    have hne : r ≠ r' := fun heq => hr (Or.inl (List.mem_singleton.2 heq))
    rw [bag?_putInBag_of_ne hs hne, hb]
  | appended r' other =>
    have hnot : r ∉ [r', other] := fun hmem => hr (Or.inl hmem)
    simp only [List.mem_cons, List.not_mem_nil, or_false, not_or] at hnot
    rw [bag?_appendBag_of_ne hs hnot.1 hnot.2, hb]

/-- Putting a catalogue into a bag leaves loose catalogues alone. -/
theorem catalogue?_putInBag_of_loose {s : Store} {cell : Ref Catalogue} (h : s.Loose cell)
    (r : Ref HeldBag) (c : Catalogue) : (s.putInBag r c).catalogue? cell = s.catalogue? cell := by
  unfold putInBag
  split
  · next held hheld =>
    have hne : cell ≠ held := by
      rintro rfl
      exact h.unheld r c.locale hheld
    rw [catalogue?_editCatalogue, if_neg hne]
  · rw [catalogue?_holdCatalogue, if_neg h.ne_fresh]

/-- Putting catalogues into a bag leaves a loose one as it is. -/
theorem catalogue?_putAllInBag_of_loose {s : Store} {cell : Ref Catalogue} (h : s.Loose cell)
    (r : Ref HeldBag) (cs : List Catalogue) :
    (s.putAllInBag r cs).catalogue? cell = s.catalogue? cell := by
  induction cs generalizing s with
  | nil => rfl
  | cons c cs ih =>
    have hstep : s.putAllInBag r (c :: cs) = (s.putInBag r c).putAllInBag r cs := rfl
    rw [hstep, ih (h.later (later_putInBag s r c)), catalogue?_putInBag_of_loose h]

/-- An event leaves a loose catalogue alone unless it edits that very one. -/
theorem Effect.catalogue?_of_loose {s t : Store} {e : Event} (h : s.Effect e t)
    {cell : Ref Catalogue} (hcell : s.Loose cell) (hne : e.edited ≠ some cell) :
    t.catalogue? cell = s.catalogue? cell := by
  cases h with
  | idle hc hb => rw [catalogue?, hc]; rfl
  | made c =>
    rw [catalogue?_addCatalogue]
    exact if_neg hcell.ne_fresh
  | @edited _ cell' he f hf =>
    have hother : cell ≠ cell' := fun heq => hne (heq ▸ he)
    rw [catalogue?_editCatalogue, if_neg hother]
  | bagged cs b =>
    obtain ⟨c, hc⟩ := Option.isSome_iff_exists.1 hcell.there
    rw [catalogue?_addBag hc, hc]
  | put r c cat => exact catalogue?_putInBag_of_loose hcell r cat
  | appended r other => exact catalogue?_putAllInBag_of_loose hcell r _

/-! ### What is not noticed -/

/-- Stores with the same resolvers and the same bags give the same replies. -/
theorem reply_congr {s t : Store} (hresolvers : t.resolvers = s.resolvers)
    (hbags : ∀ r, t.bag? r = s.bag? r) (r : Ref Resolver) (q : Query) :
    (t.ask r q).map Prod.fst = (s.ask r q).map Prod.fst := by
  have hresolver : t.resolver? r = s.resolver? r := by
    rw [resolver?, hresolvers]
    rfl
  have hbehind : ∀ x : Resolver, t.bagBehind x = s.bagBehind x := fun x => by
    rw [bagBehind, bagBehind, hbags]
  -- a reply reads the resolver and the bag behind it, and nothing else of the store
  cases hx : s.resolver? r with
  | none => rw [ask_none hx, ask_none (hresolver.trans hx)]
  | some x =>
    cases q <;>
      simp only [ask, message, hresolver, hx, renderWith, resolve, resolves, hbehind,
        Option.map_some]

/-- What any resolver finds and renders is decided by the bags. -/
theorem renderWith_of_bags {s t : Store} (hbags : ∀ r, t.bag? r = s.bag? r) (x : Resolver) :
    t.resolve x = s.resolve x ∧ t.renderWith x = s.renderWith x := by
  have hbehind : t.bagBehind x = s.bagBehind x := by rw [bagBehind, bagBehind, hbags]
  constructor
  · funext l domain id
    rw [resolve, resolve, hbehind]
  · funext l domain id c
    rw [renderWith, renderWith, hbehind]

/-- Editing a catalogue makes no difference to any bag, to any reply, and to what any resolver would
    answer, whatever its formatter. -/
def Unnoticed (s : Store) (cell : Ref Catalogue) : Prop :=
  ∀ e : Event, e.edited = some cell →
    (∀ r, (s.step e).bag? r = s.bag? r) ∧
      (∀ r q, ((s.step e).ask r q).map Prod.fst = (s.ask r q).map Prod.fst) ∧
      ∀ x, (s.step e).resolve x = s.resolve x ∧ (s.step e).renderWith x = s.renderWith x

/-- Editing a catalogue leaves the resolvers as they are. -/
theorem resolvers_step_of_edited {e : Event} {cell : Ref Catalogue} (he : e.edited = some cell)
    (s : Store) : (s.step e).resolvers = s.resolvers := by
  cases e with
  | insert | remove | removeAll => rfl
  | merge c other =>
    rw [step, withCatalogue]
    cases s.catalogue? other <;> rfl
  | _ => exact absurd he (by simp [Event.edited])

/-- What is done to a loose catalogue is noticed nowhere else. -/
theorem Loose.unnoticed {s : Store} {cell : Ref Catalogue} (h : s.Loose cell) (hs : s.Owned) :
    s.Unnoticed cell := by
  intro e he
  have hbags : ∀ r, (s.step e).bag? r = s.bag? r := by
    intro r
    have heffect := effect_step s e
    generalize s.step e = t at heffect
    cases heffect with
    | idle hc hb => exact bag?_congr hc hb r
    | made c => exact bag?_addCatalogue hs c r
    | edited he' hf =>
      obtain rfl := Option.some.inj (he'.symm.trans he)
      exact bag?_editCatalogue_of_not_held (h.unheld r) _
    | bagged | put | appended => exact absurd he (by simp [Event.edited])
  exact ⟨hbags, reply_congr (resolvers_step_of_edited he s) hbags, renderWith_of_bags hbags⟩

/-! ### After every history -/

/-- Bags share their catalogues neither with each other nor with callers, whose own catalogues are
    given. -/
structure Separate (s : Store) (own : List (Ref Catalogue)) : Prop where
  /-- no catalogue is kept in two places -/
  once : ∀ b l b' l' cell, s.heldCatalogue? b l = some cell → s.heldCatalogue? b' l' = some cell →
    b = b' ∧ l = l'
  /-- no bag keeps a catalogue of a caller -/
  loose : ∀ cell ∈ own, s.Loose cell
  /-- what callers do to their own catalogues is not noticed -/
  edit_own : ∀ cell ∈ own, s.Unnoticed cell
  /-- what is done to a bag, or to a catalogue that it keeps, changes no catalogue of a caller and
      no bag that is not an operand -/
  edit_bag : ∀ e r, s.Operand r e →
    (∀ cell ∈ own, (s.step e).catalogue? cell = s.catalogue? cell) ∧
      ∀ r' b, ¬ s.Operand r' e → s.bag? r' = some b → (s.step e).bag? r' = some b
  /-- a bag that was put into another one is empty, and what is done to a catalogue that it kept
      before is not noticed any more, whatever comes in between -/
  released : ∀ a b, (s.bag? a).isSome = true → (s.bag? b).isSome = true →
    (s.step (.appendBag a b)).bag? b = some Bag.empty ∧
      ∀ l cell, s.heldCatalogue? b l = some cell →
        ∀ es, ((s.step (.appendBag a b)).run es).Unnoticed cell

/-- An event that is about a bag edits no loose catalogue. -/
theorem Operand.edited_ne {s : Store} {r : Ref HeldBag} {e : Event} (h : s.Operand r e)
    {cell : Ref Catalogue} (hcell : s.Loose cell) : e.edited ≠ some cell := by
  intro he
  rcases h with hnamed | ⟨cell', l, he', hheld⟩
  · -- an event that names bags edits no catalogue
    cases e with
    | putInBag | appendBag => exact absurd he (by simp [Event.edited])
    | _ => exact absurd hnamed List.not_mem_nil
  · obtain rfl := Option.some.inj (he'.symm.trans he)
    exact hcell.unheld r l hheld

/-- After every history, bags share their catalogues neither with each other nor with callers. -/
theorem separate_run (es : List Event) : (empty.run es).Separate (empty.givenBy es) := by
  have hs : (empty.run es).Owned := owned_run es
  have hloose : ∀ cell ∈ empty.givenBy es, (empty.run es).Loose cell :=
    fun cell hcell => owned_empty.loose_givenBy hcell
  -- from here on the history counts only by what it left owned and loose
  generalize empty.run es = s at hs hloose ⊢
  constructor
  case once => exact hs.apart
  case loose => exact hloose
  case edit_own => exact fun cell hcell => (hloose cell hcell).unnoticed hs
  case edit_bag =>
    intro e r hr
    refine ⟨fun cell hcell => ?_, fun r' b hr' hb => ?_⟩
    · exact (effect_step s e).catalogue?_of_loose (hloose cell hcell)
        (hr.edited_ne (hloose cell hcell))
    · exact (effect_step s e).bag?_of_not_operand hs hb hr'
  case released =>
    intro a b ha hb
    obtain ⟨va, ha⟩ := Option.isSome_iff_exists.1 ha
    obtain ⟨vb, hb⟩ := Option.isSome_iff_exists.1 hb
    have hstep : s.step (.appendBag a b) = s.appendBag a b := step_appendBag ha hb
    rw [hstep]
    refine ⟨bag?_appendBag_other hs a hb, fun l cell hcell es => ?_⟩
    have howned : ((s.appendBag a b).run es).Owned :=
      run_induction owned_step (hs.appendBag a b) es
    exact ((hs.loose_appendBag a b hcell).run es).unnoticed howned

end Store

end Phrasebook

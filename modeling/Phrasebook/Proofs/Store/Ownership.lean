import Phrasebook.Proofs.Catalogue.Merge
import Phrasebook.Proofs.Store.Events

namespace Phrasebook

/-!
# Bags keep catalogues of their own

A store keeps every catalogue in a cell, and a bag refers to the cells of its catalogues.  No cell
is held twice, so that a change to one bag is not seen in another one.

* `Store.Owned`: the invariant.
* `Store.Owned.mono`: it is kept where nothing more is held and the cells keep their locales.
* `Store.Effect`, `Store.effect_step`: what an event can do to catalogues and bags.
* `Store.owned_step`, `Store.owned_run`: it is kept by every event and holds after every history.
* `Store.resolvers_step`, `Store.isSome_resolver?_step`: what an event can do to resolvers.
-/

/-- What a reference refers to is not the next thing to be put in. -/
theorem Arena.ne_fresh {α : Type u} {a : Arena α} {r : Ref α} {x : α} (h : a.get? r = some x) :
    r ≠ a.fresh := by
  rintro rfl
  rw [get?_fresh] at h
  exact absurd h (by simp)

namespace Store

/-- Every cell that a bag holds for a locale has a catalogue of that locale, and no cell is held in
    two places. -/
structure Owned (s : Store) : Prop where
  held : ∀ b l cell, s.heldCatalogue? b l = some cell →
    ∃ c, s.catalogue? cell = some c ∧ c.locale = l
  apart : ∀ b l b' l' cell, s.heldCatalogue? b l = some cell → s.heldCatalogue? b' l' = some cell →
    b = b' ∧ l = l'

/-! ### What is held -/

/-- The catalogues of each bag after one is given another. -/
theorem heldCatalogue?_holdCatalogue (s : Store) (r : Ref HeldBag) (c : Catalogue)
    (b : Ref HeldBag) (l : Locale) :
    (s.holdCatalogue r c).heldCatalogue? b l
      = if b = r ∧ l = c.locale then (s.bags.get? r).map fun _ => s.catalogues.fresh
        else s.heldCatalogue? b l := by
  show ((s.bags.modify r fun h => ⟨h.catalogues.insert c.locale s.catalogues.fresh⟩).get? b).bind
    (fun h => h.catalogues.get? l) = _
  rw [Arena.get?_modify]
  by_cases hb : b = r
  · subst hb
    rw [if_pos rfl, heldCatalogue?]
    cases s.bags.get? b with
    | none => simp
    | some h =>
      show (h.catalogues.insert c.locale s.catalogues.fresh).get? l = _
      rw [Dict.get?_insert]
      by_cases hl : l = c.locale <;> simp [hl]
  · rw [if_neg hb, if_neg fun h => hb h.1]
    rfl

/-- The catalogues of the store after a bag is given one. -/
theorem catalogue?_holdCatalogue (s : Store) (r : Ref HeldBag) (c : Catalogue)
    (cell : Ref Catalogue) :
    (s.holdCatalogue r c).catalogue? cell
      = if cell = s.catalogues.fresh then some c else s.catalogue? cell :=
  s.catalogues.get?_push c cell

/-- A cell that is held is not the next one to be given out. -/
theorem Owned.ne_fresh {s : Store} (h : s.Owned) {b : Ref HeldBag} {l : Locale}
    {cell : Ref Catalogue} (hheld : s.heldCatalogue? b l = some cell) :
    cell ≠ s.catalogues.fresh := by
  obtain ⟨c, hc, -⟩ := h.held b l cell hheld
  exact Arena.ne_fresh hc

/-! ### The invariant is kept -/

/-- A store that holds nothing more, and whose cells have kept their locales. -/
theorem Owned.mono {s t : Store} (h : s.Owned)
    (hheld : ∀ b l cell, t.heldCatalogue? b l = some cell → s.heldCatalogue? b l = some cell)
    (hcatalogues : ∀ cell c, s.catalogue? cell = some c →
      ∃ c', t.catalogue? cell = some c' ∧ c'.locale = c.locale) : t.Owned := by
  constructor
  · intro b l cell hcell
    obtain ⟨c, hc, hl⟩ := h.held b l cell (hheld b l cell hcell)
    obtain ⟨c', hc', hl'⟩ := hcatalogues cell c hc
    exact ⟨c', hc', hl'.trans hl⟩
  · intro b l b' l' cell hcell hcell'
    exact h.apart b l b' l' cell (hheld b l cell hcell) (hheld b' l' cell hcell')

/-- Adding a catalogue leaves each with one owner at most. -/
theorem Owned.addCatalogue {s : Store} (h : s.Owned) (c : Catalogue) :
    (s.addCatalogue c).2.Owned := by
  refine h.mono (fun _ _ _ hcell => hcell) fun cell c' hc' => ⟨c', ?_, rfl⟩
  rw [catalogue?_addCatalogue]
  exact (if_neg (Arena.ne_fresh hc')).trans hc'

/-- So does editing one, as long as its locale stays. -/
theorem Owned.editCatalogue {s : Store} (h : s.Owned) (cell : Ref Catalogue)
    {f : Catalogue → Catalogue} (hf : ∀ c, (f c).locale = c.locale) :
    (s.editCatalogue cell f).Owned := by
  refine h.mono (fun _ _ _ hcell => hcell) fun cell' c hc => ?_
  rw [catalogue?_editCatalogue]
  by_cases hcell : cell' = cell
  · subst hcell
    exact ⟨f c, by rw [if_pos rfl, hc]; rfl, hf c⟩
  · exact ⟨c, by rw [if_neg hcell, hc], rfl⟩

/-- A new cell is held by nobody else. -/
theorem Owned.holdCatalogue {s : Store} (h : s.Owned) (r : Ref HeldBag) (c : Catalogue) :
    (s.holdCatalogue r c).Owned := by
  constructor
  · intro b l cell hheld
    rw [heldCatalogue?_holdCatalogue] at hheld
    rw [catalogue?_holdCatalogue]
    split at hheld
    · next hnew =>
      obtain ⟨_, -, rfl⟩ := Option.map_eq_some_iff.1 hheld
      exact ⟨c, if_pos rfl, hnew.2.symm⟩
    · rw [if_neg (h.ne_fresh hheld)]
      exact h.held b l cell hheld
  · intro b l b' l' cell hheld hheld'
    rw [heldCatalogue?_holdCatalogue] at hheld hheld'
    split at hheld <;> split at hheld'
    · next hnew hnew' => exact ⟨hnew.1.trans hnew'.1.symm, hnew.2.trans hnew'.2.symm⟩
    · obtain ⟨_, -, rfl⟩ := Option.map_eq_some_iff.1 hheld
      exact absurd rfl (h.ne_fresh hheld')
    · obtain ⟨_, -, rfl⟩ := Option.map_eq_some_iff.1 hheld'
      exact absurd rfl (h.ne_fresh hheld)
    · exact h.apart b l b' l' cell hheld hheld'

/-- So does putting one into a bag. -/
theorem Owned.putInBag {s : Store} (h : s.Owned) (r : Ref HeldBag) (c : Catalogue) :
    (s.putInBag r c).Owned := by
  unfold Store.putInBag
  split
  · exact h.editCatalogue _ fun held => Catalogue.locale_merge held c
  · exact h.holdCatalogue r _

/-- So does putting several into a bag. -/
theorem Owned.putAllInBag {s : Store} (h : s.Owned) (r : Ref HeldBag) (cs : List Catalogue) :
    (s.putAllInBag r cs).Owned := by
  induction cs generalizing s with
  | nil => exact h
  | cons c cs ih => exact ih (h.putInBag r c)

/-- An emptied bag holds nothing any more. -/
theorem heldCatalogue?_emptied {s : Store} {r b : Ref HeldBag} {l : Locale} {cell : Ref Catalogue}
    (h : heldCatalogue? { s with bags := s.bags.modify r fun _ => {} } b l = some cell) :
    b ≠ r ∧ s.heldCatalogue? b l = some cell := by
  have hget : ((s.bags.modify r fun _ => {}).get? b).bind (fun h => h.catalogues.get? l)
      = some cell := h
  rw [Arena.get?_modify] at hget
  by_cases hb : b = r
  · subst hb
    rw [if_pos rfl] at hget
    cases hbag : s.bags.get? b with
    | none => rw [hbag] at hget; exact absurd hget (by simp)
    | some held => rw [hbag] at hget; exact absurd hget (by simp)
  · rw [if_neg hb] at hget
    exact ⟨hb, hget⟩

/-- So does putting a bag into another one. -/
theorem Owned.appendBag {s : Store} (h : s.Owned) (r other : Ref HeldBag) :
    (s.appendBag r other).Owned :=
  (h.putAllInBag r _).mono (fun _ _ _ hcell => (heldCatalogue?_emptied hcell).2)
    fun _ c hc => ⟨c, hc, rfl⟩

/-- A new bag holds nothing yet. -/
theorem heldCatalogue?_newBag {s : Store} {b : Ref HeldBag} {l : Locale} {cell : Ref Catalogue}
    (h : heldCatalogue? { s with bags := s.bags.push {} } b l = some cell) :
    s.heldCatalogue? b l = some cell := by
  have hget : ((s.bags.push {}).get? b).bind (fun h => h.catalogues.get? l) = some cell := h
  rw [Arena.get?_push] at hget
  by_cases hb : b = s.bags.fresh
  · rw [if_pos hb] at hget
    exact absurd hget (by simp)
  · rw [if_neg hb] at hget
    exact hget

/-- So does making a bag without any. -/
theorem Owned.newBag {s : Store} (h : s.Owned) : Owned { s with bags := s.bags.push {} } :=
  h.mono (fun _ _ _ hcell => heldCatalogue?_newBag hcell) fun _ c hc => ⟨c, hc, rfl⟩

/-- So does giving a bag several new ones. -/
theorem Owned.holdAll {s : Store} (h : s.Owned) (r : Ref HeldBag) (cs : List Catalogue) :
    (cs.foldl (fun s c => s.holdCatalogue r c) s).Owned := by
  induction cs generalizing s with
  | nil => exact h
  | cons c cs ih => exact ih (h.holdCatalogue r c)

/-- So does adding a bag. -/
theorem Owned.addBag {s : Store} (h : s.Owned) (b : Bag) : (s.addBag b).2.Owned :=
  h.newBag.holdAll _ _

theorem owned_empty : empty.Owned :=
  ⟨fun _ _ _ h => absurd h (by simp [heldCatalogue?, empty, Arena.get?]),
    fun _ _ _ _ _ h => absurd h (by simp [heldCatalogue?, empty, Arena.get?])⟩

/-- A change of resolvers alone leaves the owners as they are. -/
theorem Owned.of_resolvers {s t : Store} (h : s.Owned) (hc : t.catalogues = s.catalogues)
    (hb : t.bags = s.bags) : t.Owned := by
  refine h.mono (fun b l cell hcell => ?_) fun cell c hcat => ⟨c, ?_, rfl⟩
  · rw [heldCatalogue?, hb] at hcell
    exact hcell
  · rw [catalogue?, hc]
    exact hcat

/-- Asking changes at most the formatter of the resolver that is asked. -/
theorem eq_or_setResolver_of_ask {s t : Store} {r : Ref Resolver} {q : Query} {reply : Reply}
    (h : s.ask r q = some (reply, t)) :
    t = s ∨ ∃ x f, s.resolver? r = some x ∧ t = s.setResolver r { x with formatter := f } := by
  cases q with
  | translate l domain id given | tryTranslate l domain id given =>
    obtain ⟨p, hmessage, hp⟩ := Option.map_eq_some_iff.1 h
    obtain ⟨x, hx, hanswer⟩ := Option.map_eq_some_iff.1 hmessage
    refine Or.inr ⟨x, (s.renderWith x l domain id (.ofGiven given)).2.formatter, hx, ?_⟩
    have ht : t = p.2 := (congrArg Prod.snd hp).symm
    rw [ht, ← hanswer]
    rfl
  | resolve l domain id | has l domain id | chain l =>
    obtain ⟨x, -, hx⟩ := Option.map_eq_some_iff.1 h
    exact Or.inl (congrArg Prod.snd hx).symm

/-- A question leaves all catalogues and bags as they are. -/
theorem catalogues_bags_of_ask {s t : Store} {r : Ref Resolver} {q : Query} {reply : Reply}
    (h : s.ask r q = some (reply, t)) : t.catalogues = s.catalogues ∧ t.bags = s.bags := by
  rcases eq_or_setResolver_of_ask h with rfl | ⟨x, f, -, rfl⟩
  · exact ⟨rfl, rfl⟩
  · exact ⟨rfl, rfl⟩

end Store

/-! ### What an event does -/

/-- The catalogue that an event edits where it is. -/
def Event.edited : Event → Option (Ref Catalogue)
  | .insert c _ _ _ | .remove c _ _ | .removeAll c _ | .merge c _ => some c
  | _ => none

namespace Store

/-- What an event does to the catalogues and bags of a store. -/
inductive Effect (s : Store) : Event → Store → Prop
  /-- nothing -/
  | idle {e : Event} {t : Store} (hc : t.catalogues = s.catalogues) (hb : t.bags = s.bags) :
      Effect s e t
  /-- a catalogue is made that no bag keeps -/
  | made {e : Event} (c : Catalogue) : Effect s e (s.addCatalogue c).2
  /-- a catalogue is edited where it is -/
  | edited {e : Event} {cell : Ref Catalogue} (he : e.edited = some cell)
      {f : Catalogue → Catalogue} (hf : ∀ c, (f c).locale = c.locale) :
      Effect s e (s.editCatalogue cell f)
  /-- a bag is made -/
  | bagged (cs : List (Ref Catalogue)) (b : Bag) : Effect s (.newBag cs) (s.addBag b).2
  /-- a catalogue is put into a bag -/
  | put (r : Ref HeldBag) (c : Ref Catalogue) (cat : Catalogue) :
      Effect s (.putInBag r c) (s.putInBag r cat)
  /-- a bag is put into another one -/
  | appended (r other : Ref HeldBag) : Effect s (.appendBag r other) (s.appendBag r other)

/-- One case for each kind of event. -/
theorem effect_step (s : Store) (e : Event) : s.Effect e (s.step e) := by
  -- the first five always do something; the others need what they refer to
  cases e with
  | newCatalogue l domains => exact .made _
  | insert c domain id template =>
    exact .edited rfl fun cat => Catalogue.locale_insert cat domain id template
  | remove c domain id => exact .edited rfl fun cat => Catalogue.locale_remove cat domain id
  | removeAll c domain => exact .edited rfl fun cat => Catalogue.locale_removeAll cat domain
  | newBag cs => exact .bagged cs _
  | cloneCatalogue c =>
    simp only [step, withCatalogue]
    cases s.catalogue? c with
    | none => exact .idle rfl rfl
    | some cat => exact .made cat.clone
  | merge c other =>
    simp only [step, withCatalogue]
    cases s.catalogue? other with
    | none => exact .idle rfl rfl
    | some o => exact .edited rfl fun cat => Catalogue.locale_merge cat o
  | putInBag b c =>
    simp only [step, withCatalogue]
    split
    · cases s.catalogue? c with
      | none => exact .idle rfl rfl
      | some cat => exact .put b c cat
    · exact .idle rfl rfl
  | appendBag b other =>
    simp only [step]
    split
    · exact .appended b other
    · exact .idle rfl rfl
  | newResolver b fallback capacity =>
    simp only [step]
    split
    · cases resolverOf? b fallback capacity with
      | none => exact .idle rfl rfl
      | some x => exact .idle rfl rfl
    · exact .idle rfl rfl
  | setFallback r l =>
    simp only [step, withResolver]
    cases s.resolver? r with
    | none => exact .idle rfl rfl
    | some x =>
      simp only [Option.elim_some]
      cases (x.setFallback l).toOption with
      | none => exact .idle rfl rfl
      | some y => exact .idle rfl rfl
  | ask r q =>
    simp only [step]
    cases hask : s.ask r q with
    | none => exact .idle rfl rfl
    | some p =>
      -- only the formatter of a resolver remembers what was asked
      obtain ⟨hc, hb⟩ := catalogues_bags_of_ask hask
      exact .idle hc hb
  | forget r kept =>
    simp only [step, withResolver]
    cases s.resolver? r with
    | none => exact .idle rfl rfl
    | some x => exact .idle rfl rfl
  | lend r other =>
    simp only [step, withResolver]
    cases s.resolver? r with
    | none => exact .idle rfl rfl
    | some x =>
      cases s.resolver? other with
      | none => exact .idle rfl rfl
      | some y => exact .idle rfl rfl

/-- Every event leaves each catalogue with one owner at most. -/
theorem Effect.owned {s t : Store} {e : Event} (h : s.Effect e t) (hs : s.Owned) : t.Owned := by
  cases h with
  | idle hc hb => exact hs.of_resolvers hc hb
  | made c => exact hs.addCatalogue c
  | edited he hf => exact hs.editCatalogue _ hf
  | bagged cs b => exact hs.addBag b
  | put r c cat => exact hs.putInBag r cat
  | appended r other => exact hs.appendBag r other

/-- One event. -/
theorem owned_step (s : Store) (e : Event) (h : s.Owned) : (s.step e).Owned :=
  (effect_step s e).owned h

/-- Every history. -/
theorem owned_run (es : List Event) : (empty.run es).Owned :=
  run_induction owned_step owned_empty es

/-! ### Resolvers stay -/

/-- What an event does to the resolvers of a store: nothing, a new one, or another one put where one
    is. -/
theorem resolvers_step (s : Store) (e : Event) :
    (s.step e).resolvers = s.resolvers ∨ (∃ x, (s.step e).resolvers = s.resolvers.push x) ∨
      ∃ r x, (s.step e).resolvers = s.resolvers.set r x := by
  -- catalogues and bags have no part in it
  cases e with
  | newCatalogue | insert | remove | removeAll => exact Or.inl rfl
  | newBag cs => exact Or.inl (resolvers_addBag s _)
  | cloneCatalogue c | merge c other =>
    simp only [step, withCatalogue]
    cases s.catalogue? _ <;> exact Or.inl rfl
  | putInBag b c =>
    simp only [step, withCatalogue]
    split
    · cases s.catalogue? c with
      | none => exact Or.inl rfl
      | some cat => exact Or.inl (resolvers_putInBag s b cat)
    · exact Or.inl rfl
  | appendBag b other =>
    simp only [step]
    split
    · exact Or.inl (resolvers_appendBag s b other)
    · exact Or.inl rfl
  | newResolver b fallback capacity =>
    simp only [step]
    split
    · cases resolverOf? b fallback capacity with
      | none => exact Or.inl rfl
      | some x => exact Or.inr (Or.inl ⟨x, rfl⟩)
    · exact Or.inl rfl
  | setFallback r l =>
    simp only [step, withResolver]
    cases s.resolver? r with
    | none => exact Or.inl rfl
    | some x =>
      simp only [Option.elim_some]
      cases (x.setFallback l).toOption with
      | none => exact Or.inl rfl
      | some y => exact Or.inr (Or.inr ⟨r, y, rfl⟩)
  | ask r q =>
    simp only [step]
    cases hask : s.ask r q with
    | none => exact Or.inl rfl
    | some p =>
      -- an answer that was formatted leaves its reading with the formatter
      rcases eq_or_setResolver_of_ask hask with heq | ⟨x, f, -, heq⟩
      · exact Or.inl (congrArg resolvers heq)
      · exact Or.inr (Or.inr ⟨r, _, congrArg resolvers heq⟩)
  | forget r kept =>
    simp only [step, withResolver]
    cases s.resolver? r with
    | none => exact Or.inl rfl
    | some x => exact Or.inr (Or.inr ⟨r, _, rfl⟩)
  | lend r other =>
    simp only [step, withResolver]
    cases s.resolver? r with
    | none => exact Or.inl rfl
    | some x =>
      cases s.resolver? other with
      | none => exact Or.inl rfl
      | some y => exact Or.inr (Or.inr ⟨other, _, rfl⟩)

/-- A resolver that is there stays when one is replaced. -/
theorem isSome_resolver?_setResolver {s : Store} {r : Ref Resolver}
    (h : (s.resolver? r).isSome = true) (r' : Ref Resolver) (x : Resolver) :
    ((s.setResolver r' x).resolver? r).isSome = true := by
  rw [resolver?_setResolver]
  split
  · next heq => rw [← heq, Option.isSome_map]; exact h
  · exact h

/-- No event takes a resolver away. -/
theorem isSome_resolver?_step {s : Store} {r : Ref Resolver} (h : (s.resolver? r).isSome = true)
    (e : Event) : ((s.step e).resolver? r).isSome = true := by
  rcases s.resolvers_step e with hsame | ⟨x, hpush⟩ | ⟨r', x, hset⟩
  · rwa [resolver?, hsame]
  · rw [resolver?, hpush, Arena.get?_push]
    split
    · rfl
    · exact h
  · rw [resolver?, hset]
    exact isSome_resolver?_setResolver h r' x

end Store

end Phrasebook

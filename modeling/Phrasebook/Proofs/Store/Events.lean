import Phrasebook.Store.Resolver

namespace Phrasebook

/-!
# Histories of a store

What a program can do to catalogues, bags and resolvers, in any order.

* `Query`, `Reply`, `Store.ask`: what a resolver can be asked, and what it replies.
* `Event`: one action of a program.  An action on a reference to nothing changes nothing, as does
  one that is refused.
* `Store.step`, `Store.run`: the store after an event and after a history.

Every operation on catalogues and bags has a lemma that it leaves the resolvers alone.
-/

/-! ### Queries -/

/-- What a resolver can be asked. -/
inductive Query
  /-- for a message -/
  | translate (l : Locale) (domain id : String) (given : Given)
  /-- for a message, or the error of this library that there is instead -/
  | tryTranslate (l : Locale) (domain id : String) (given : Given)
  /-- for the template of a message -/
  | resolve (l : Locale) (domain id : String)
  /-- whether a message has a template -/
  | has (l : Locale) (domain id : String)
  /-- for the locales that it tries -/
  | chain (l : Locale)

/-- What a resolver replies. -/
inductive Reply
  | message (m : Except Failure String)
  | attempt (a : Except Failure Attempt)
  | template (t : Option Resolved)
  | presence (found : Bool)
  | locales (ls : List Locale)

/-- The reply of the resolver at a reference, and the store after it; nothing where there is no
    resolver. -/
def Store.ask (s : Store) (r : Ref Resolver) : Query → Option (Reply × Store)
  | .translate l domain id given =>
    (s.message r l domain id (.ofGiven given)).map fun p =>
      (.message (p.1.map Rendered.message), p.2)
  | .tryTranslate l domain id given =>
    (s.message r l domain id (.ofGiven given)).map fun p => (.attempt (attempt p.1), p.2)
  | .resolve l domain id => (s.resolver? r).map fun x => (.template (s.resolve x l domain id), s)
  | .has l domain id => (s.resolver? r).map fun x => (.presence (s.resolves x l domain id), s)
  | .chain l => (s.resolver? r).map fun x => (.locales (x.chain l), s)

/-! ### Caches beyond the control of a program -/

/-- A cache that keeps only some of its entries. -/
def Cache.keep (c : Cache) (kept : String → Bool) : Cache :=
  { c with entries := c.entries.filter fun e => kept e.1 }

/-- A formatter whose cache keeps only some of its entries. -/
def Formatter.keep (f : Formatter) (kept : String → Bool) : Formatter :=
  match f with
  | cached cache => cached (cache.keep kept)
  | custom answer => custom answer

/-! ### Events -/

/-- One action of a program.  References to a bag's own catalogues are references like others, so
    the edits are those of free and of held catalogues. -/
inductive Event
  | newCatalogue (l : Locale) (domains : List (String × List (String × String)))
  | cloneCatalogue (c : Ref Catalogue)
  | insert (c : Ref Catalogue) (domain id template : String)
  | remove (c : Ref Catalogue) (domain id : String)
  | removeAll (c : Ref Catalogue) (domain : String)
  | merge (c other : Ref Catalogue)
  | newBag (cs : List (Ref Catalogue))
  | putInBag (b : Ref HeldBag) (c : Ref Catalogue)
  | appendBag (b other : Ref HeldBag)
  | newResolver (b : Ref HeldBag) (fallback : Option LocaleRef)
      (capacity : Option Number.Double)
  | setFallback (r : Ref Resolver) (l : Option LocaleRef)
  | ask (r : Ref Resolver) (q : Query)
  /-- a cache loses entries, whatever its reason -/
  | forget (r : Ref Resolver) (kept : String → Bool)
  /-- a resolver goes on with the formatter of another one, as one that shares it does -/
  | lend (r other : Ref Resolver)

namespace Store

/-- The store with the catalogue at a reference given to a function. -/
def withCatalogue (s : Store) (c : Ref Catalogue) (f : Catalogue → Store) : Store :=
  (s.catalogue? c).elim s f

/-- The store with the resolver at a reference given to a function. -/
def withResolver (s : Store) (r : Ref Resolver) (f : Resolver → Store) : Store :=
  (s.resolver? r).elim s f

/-- The resolver that options state, for a bag. -/
def resolverOf? (b : Ref HeldBag) (fallback : Option LocaleRef) (capacity : Option Number.Double) :
    Option Resolver :=
  match Formatter.ofCapacity capacity with
  | .error _ => none
  | .ok f => (Resolver.ofOptions b fallback f).toOption

/-- The store after an event. -/
def step (s : Store) : Event → Store
  | .newCatalogue l domains => (s.addCatalogue (.ofMessages l domains)).2
  | .cloneCatalogue c => s.withCatalogue c fun cat => (s.addCatalogue cat.clone).2
  | .insert c domain id template => s.editCatalogue c fun cat => cat.insert domain id template
  | .remove c domain id => s.editCatalogue c fun cat => cat.remove domain id
  | .removeAll c domain => s.editCatalogue c fun cat => cat.removeAll domain
  | .merge c other => s.withCatalogue other fun o => s.editCatalogue c fun cat => cat.merge o
  | .newBag cs => (s.addBag (.ofList (cs.filterMap s.catalogue?))).2
  | .putInBag b c =>
    if (s.bag? b).isSome then s.withCatalogue c fun cat => s.putInBag b cat else s
  | .appendBag b other =>
    if (s.bag? b).isSome ∧ (s.bag? other).isSome then s.appendBag b other else s
  | .newResolver b fallback capacity =>
    if (s.bag? b).isSome then
      (resolverOf? b fallback capacity).elim s fun x => (s.addResolver x).2
    else s
  | .setFallback r l =>
    s.withResolver r fun x => ((x.setFallback l).toOption).elim s fun x => s.setResolver r x
  | .ask r q => (s.ask r q).elim s Prod.snd
  | .forget r kept =>
    s.withResolver r fun x => s.setResolver r { x with formatter := x.formatter.keep kept }
  | .lend r other =>
    s.withResolver r fun x =>
      s.withResolver other fun y => s.setResolver other { y with formatter := x.formatter }

/-- The store after a history. -/
def run (s : Store) (es : List Event) : Store :=
  es.foldl step s

@[simp] theorem run_nil (s : Store) : s.run [] = s := rfl

@[simp] theorem run_cons (s : Store) (e : Event) (es : List Event) :
    s.run (e :: es) = (s.step e).run es := rfl

/-- What every event preserves holds after every history. -/
theorem run_induction {p : Store → Prop} (hstep : ∀ s e, p s → p (s.step e)) {s : Store} (h : p s)
    (es : List Event) : p (s.run es) := by
  induction es generalizing s with
  | nil => exact h
  | cons e es ih => exact ih (hstep s e h)

/-! ### What is left alone -/

@[simp] theorem resolvers_addCatalogue (s : Store) (c : Catalogue) :
    (s.addCatalogue c).2.resolvers = s.resolvers := rfl

@[simp] theorem resolvers_editCatalogue (s : Store) (c : Ref Catalogue)
    (f : Catalogue → Catalogue) : (s.editCatalogue c f).resolvers = s.resolvers := rfl

@[simp] theorem resolvers_holdCatalogue (s : Store) (b : Ref HeldBag) (c : Catalogue) :
    (s.holdCatalogue b c).resolvers = s.resolvers := rfl

@[simp] theorem resolvers_putInBag (s : Store) (b : Ref HeldBag) (c : Catalogue) :
    (s.putInBag b c).resolvers = s.resolvers := by
  unfold putInBag
  split <;> rfl

@[simp] theorem resolvers_putAllInBag (s : Store) (b : Ref HeldBag) (cs : List Catalogue) :
    (s.putAllInBag b cs).resolvers = s.resolvers := by
  induction cs generalizing s with
  | nil => rfl
  | cons c cs ih => exact (ih (s.putInBag b c)).trans (resolvers_putInBag s b c)

@[simp] theorem resolvers_appendBag (s : Store) (b other : Ref HeldBag) :
    (s.appendBag b other).resolvers = s.resolvers :=
  resolvers_putAllInBag s b _

@[simp] theorem resolvers_addBag (s : Store) (b : Bag) :
    (s.addBag b).2.resolvers = s.resolvers := by
  have hfold : ∀ (cs : List Catalogue) (r : Ref HeldBag) (t : Store),
      (cs.foldl (fun s c => s.holdCatalogue r c) t).resolvers = t.resolvers := by
    intro cs r
    induction cs with
    | nil => exact fun _ => rfl
    | cons c cs ih => exact fun t => ih (t.holdCatalogue r c)
  exact hfold _ _ _

end Store

end Phrasebook

import Phrasebook.Proofs.Cache
import Phrasebook.Proofs.Store.Events

namespace Phrasebook

/-!
# Replies do not depend on history

A template cache is not to be noticed: what a resolver replies is decided by its bag as it is now
and its fallback locale, whatever its cache went through before.

* `Formatter.Faithful`: the invariant; a formatter with a faithful cache.
* `Query.answerFrom`: the reply to a query, from a bag and a fallback locale alone.
* `Store.ask_eq`: a faithful resolver gives that reply and stays faithful.
* `Store.faithful_step`, `Store.faithful_run`: the invariant holds after every history.
* `Store.ask_run_eq_fresh`: after every history a resolver replies as a new one does.
-/

/-- A faithful cache that loses entries is faithful. -/
theorem Cache.Faithful.keep {c : Cache} (h : c.Faithful) (kept : String → Bool) :
    (c.keep kept).Faithful :=
  fun e he => h e (List.mem_filter.1 he).1

/-! ### Formatters -/

namespace Formatter

/-- A formatter of the usual rule with a faithful cache. -/
def Faithful : Formatter → Prop
  | cached cache => cache.Faithful
  | custom _ => False

/-- So is a formatter whose cache loses entries. -/
theorem Faithful.keep {f : Formatter} (h : f.Faithful) (kept : String → Bool) :
    (f.keep kept).Faithful := by
  cases f with
  | cached cache => exact Cache.Faithful.keep h kept
  | custom answer => exact absurd h id

/-- A new formatter is faithful. -/
theorem faithful_ofCapacity {stated : Option Number.Double} {f : Formatter}
    (h : ofCapacity stated = .ok f) : f.Faithful := by
  unfold ofCapacity at h
  cases hn : capacityOf stated with
  | error e => rw [hn] at h; exact absurd h (by simp [Except.map])
  | ok n =>
    rw [hn] at h
    rw [← Except.ok.inj h]
    exact Cache.faithful_empty n

/-- A faithful formatter formats as if it read each source anew. -/
theorem Faithful.format {f : Formatter} (h : f.Faithful) (l : Locale) (source : String)
    (c : Context) : (f.format l source c).1 = formatSource source c ∧
      (f.format l source c).2.Faithful := by
  cases f with
  | custom answer => exact absurd h id
  | cached cache =>
    cases huse : cache.use source with
    | error fault =>
      have hparse := Cache.parse_of_use_error huse
      simp only [Formatter.format, huse, formatSource, hparse, true_and]
      exact h
    | ok p =>
      obtain ⟨hparse, hcache⟩ : Template.parse source = .ok p.1.template ∧ p.2.Faithful :=
        Cache.Faithful.use h huse
      simp only [Formatter.format, huse, formatSource, hparse, true_and]
      exact hcache

end Formatter

/-! ### Replies from a bag alone -/

/-- The message of a domain and an id, each template read anew. -/
def Bag.rendered (b : Bag) (chain : List Locale) (domain id : String) (c : Context) :
    Except Failure Rendered :=
  match b.resolve chain domain id with
  | none => .error (.fault (.notFound domain id chain))
  | some r => r.answer domain id (formatSource r.template c)

/-- A faithful formatter renders what its templates say, and stays faithful. -/
theorem render_eq {f : Formatter} (h : f.Faithful) (b : Bag) (chain : List Locale)
    (domain id : String) (c : Context) :
    (render b chain f domain id c).1 = b.rendered chain domain id c ∧
      (render b chain f domain id c).2.Faithful := by
  cases hfound : b.resolve chain domain id with
  | none =>
    simp only [render, hfound, Bag.rendered, true_and]
    exact h
  | some r =>
    obtain ⟨hanswer, hf⟩ := h.format r.locale r.template c
    simp only [render, hfound, Bag.rendered, hanswer, true_and]
    exact hf

/-- The reply to a query, from a bag and a fallback locale alone. -/
def Query.answerFrom (b : Bag) (fallback : Option Locale) : Query → Reply
  | .translate l domain id given =>
    .message ((b.rendered (lookupChain fallback l) domain id (.ofGiven given)).map
      Rendered.message)
  | .tryTranslate l domain id given =>
    .attempt (attempt (b.rendered (lookupChain fallback l) domain id (.ofGiven given)))
  | .resolve l domain id => .template (b.resolve (lookupChain fallback l) domain id)
  | .has l domain id => .presence (b.resolve (lookupChain fallback l) domain id).isSome
  | .chain l => .locales (lookupChain fallback l)

namespace Store

/-- Nothing but the formatters of resolvers differs. -/
structure SameSettings (s t : Store) : Prop where
  catalogues : t.catalogues = s.catalogues
  bags : t.bags = s.bags
  resolvers : ∀ r, (t.resolver? r).map (fun x => (x.bag, x.fallback))
    = (s.resolver? r).map fun x => (x.bag, x.fallback)

theorem SameSettings.refl (s : Store) : s.SameSettings s :=
  ⟨rfl, rfl, fun _ => rfl⟩

/-- What the catalogues and bags are decides what a bag is as a value. -/
theorem bag?_congr {s t : Store} (hc : t.catalogues = s.catalogues) (hb : t.bags = s.bags)
    (r : Ref HeldBag) : t.bag? r = s.bag? r := by
  have hof : t.bagOf = s.bagOf := by
    funext h
    simp only [bagOf, catalogue?, hc]
  rw [bag?, bag?, hof, hb]

/-- Another formatter for a resolver. -/
theorem sameSettings_setResolver {s : Store} {r : Ref Resolver} {x : Resolver}
    (hx : s.resolver? r = some x) (f : Formatter) :
    s.SameSettings (s.setResolver r { x with formatter := f }) where
  catalogues := rfl
  bags := rfl
  resolvers := by
    intro r'
    rw [resolver?_setResolver]
    by_cases h : r' = r
    · rw [if_pos h, h, hx]
      rfl
    · rw [if_neg h]

/-- The message of a faithful resolver. -/
theorem message_eq {s : Store} {r : Ref Resolver} {x : Resolver} (hx : s.resolver? r = some x)
    (hf : x.formatter.Faithful) (l : Locale) (domain id : String) (c : Context) :
    ∃ f : Formatter, f.Faithful ∧
      s.message r l domain id c
        = some ((s.bagBehind x).rendered (lookupChain x.fallback l) domain id c,
            s.setResolver r { x with formatter := f }) := by
  obtain ⟨hanswer, hafter⟩ := render_eq hf (s.bagBehind x) (lookupChain x.fallback l) domain id c
  refine ⟨(render (s.bagBehind x) (lookupChain x.fallback l) x.formatter domain id c).2, hafter, ?_⟩
  rw [message, hx, ← hanswer]
  rfl

/-! ### The invariant -/

/-- Every resolver has a faithful formatter. -/
def Faithful (s : Store) : Prop :=
  ∀ r x, s.resolver? r = some x → x.formatter.Faithful

theorem faithful_empty : empty.Faithful :=
  fun _ _ hx => absurd hx (by simp [resolver?, empty, Arena.get?])

/-- A store with the same resolvers is as faithful. -/
theorem Faithful.of_resolvers {s t : Store} (h : s.Faithful) (ht : t.resolvers = s.resolvers) :
    t.Faithful := by
  intro r x hx
  rw [resolver?, ht] at hx
  exact h r x hx

/-- A faithful resolver is added. -/
theorem Faithful.addResolver {s : Store} (h : s.Faithful) {x : Resolver}
    (hx : x.formatter.Faithful) : (s.addResolver x).2.Faithful := by
  intro r y hy
  have hpush : (s.resolvers.push x).get? r = some y := hy
  rw [Arena.get?_push] at hpush
  split at hpush
  · rw [← Option.some.inj hpush]
    exact hx
  · exact h r y hpush

/-- A resolver is replaced by a faithful one. -/
theorem Faithful.setResolver {s : Store} (h : s.Faithful) (r : Ref Resolver) {x : Resolver}
    (hx : x.formatter.Faithful) : (s.setResolver r x).Faithful := by
  intro r' y hy
  rw [resolver?_setResolver] at hy
  split at hy
  · obtain ⟨_, -, rfl⟩ := Option.map_eq_some_iff.1 hy
    exact hx
  · exact h r' y hy

/-- A faithful resolver replies from its bag and its fallback locale alone, and nothing but its
    formatter changes. -/
theorem ask_eq {s : Store} {r : Ref Resolver} {x : Resolver} (hx : s.resolver? r = some x)
    (hf : x.formatter.Faithful) (q : Query) :
    ∃ t, s.ask r q = some (q.answerFrom (s.bagBehind x) x.fallback, t) ∧ s.SameSettings t ∧
      (s.Faithful → t.Faithful) := by
  cases q with
  | translate l domain id given | tryTranslate l domain id given =>
    obtain ⟨f, hafter, hmessage⟩ := message_eq hx hf l domain id (.ofGiven given)
    refine ⟨s.setResolver r { x with formatter := f }, ?_, sameSettings_setResolver hx f,
      fun h => h.setResolver r hafter⟩
    rw [ask, hmessage]
    rfl
  | resolve l domain id | has l domain id | chain l =>
    refine ⟨s, ?_, .refl s, fun h => h⟩
    rw [ask, hx]
    rfl

/-- Where there is no resolver nothing is answered. -/
theorem ask_none {s : Store} {r : Ref Resolver} (hr : s.resolver? r = none) (q : Query) :
    s.ask r q = none := by
  cases q <;> simp [ask, message, hr]

/-- A new resolver is faithful. -/
theorem faithful_resolverOf? {b : Ref HeldBag} {fallback : Option LocaleRef}
    {capacity : Option Number.Double} {x : Resolver}
    (hx : resolverOf? b fallback capacity = some x) : x.formatter.Faithful := by
  unfold resolverOf? at hx
  split at hx
  · exact absurd hx (by simp)
  · next f hf =>
    unfold Resolver.ofOptions at hx
    cases hl : fallbackOption fallback with
    | error e => rw [hl] at hx; exact absurd hx (by simp [Except.map, Except.toOption])
    | ok l =>
      rw [hl] at hx
      rw [← Option.some.inj hx]
      exact Formatter.faithful_ofCapacity hf

/-- One event. -/
theorem faithful_step (s : Store) (e : Event) (h : s.Faithful) : (s.step e).Faithful := by
  cases e with
  | newCatalogue | insert | remove | removeAll => exact h.of_resolvers rfl
  | newBag cs => exact h.of_resolvers (resolvers_addBag s _)
  | cloneCatalogue c | merge c other =>
    simp only [step, withCatalogue]
    cases s.catalogue? _ with
    | none => exact h
    | some o => exact h.of_resolvers rfl
  | putInBag b c =>
    simp only [step, withCatalogue]
    split
    · cases s.catalogue? c with
      | none => exact h
      | some o => exact h.of_resolvers (resolvers_putInBag s b o)
    · exact h
  | appendBag b other =>
    simp only [step]
    split
    · exact h.of_resolvers (resolvers_appendBag s b other)
    · exact h
  | newResolver b fallback capacity =>
    simp only [step]
    split
    · cases hx : resolverOf? b fallback capacity with
      | none => exact h
      | some x => exact h.addResolver (faithful_resolverOf? hx)
    · exact h
  | setFallback r l =>
    simp only [step, withResolver]
    cases hx : s.resolver? r with
    | none => exact h
    | some x =>
      have hf : x.formatter.Faithful := h r x hx
      simp only [Option.elim_some, Resolver.setFallback]
      -- an accepted fallback comes with the formatter that was there
      cases localeOrOff l with
      | error e => exact h
      | ok l => exact h.setResolver r hf
  | ask r q =>
    simp only [step]
    cases hx : s.resolver? r with
    | none =>
      rw [ask_none hx]
      exact h
    | some x =>
      obtain ⟨t, hask, -, hkeep⟩ := ask_eq hx (h r x hx) q
      rw [hask]
      exact hkeep h
  | forget r kept =>
    simp only [step, withResolver]
    cases hx : s.resolver? r with
    | none => exact h
    | some x => exact h.setResolver r ((h r x hx).keep kept)
  | lend r other =>
    simp only [step, withResolver]
    cases hx : s.resolver? r with
    | none => exact h
    | some x =>
      cases s.resolver? other with
      | none => exact h
      | some y => exact h.setResolver other (h r x hx)

/-- Every history. -/
theorem faithful_run (es : List Event) : (empty.run es).Faithful :=
  run_induction faithful_step faithful_empty es

/-! ### A new resolver -/

/-- The resolver that is added is there. -/
theorem resolver?_addResolver (s : Store) (x : Resolver) :
    (s.addResolver x).2.resolver? (s.addResolver x).1 = some x := by
  show (s.resolvers.push x).get? s.resolvers.fresh = some x
  rw [Arena.get?_push, if_pos rfl]

end Store

/-- The templates of a bag decide what is found along a chain. -/
theorem Bag.resolve_congr {b b' : Bag} (h : b'.template? = b.template?) :
    b'.resolve = b.resolve := by
  funext chain domain id
  rw [Bag.resolve, Bag.resolve, h]

/-- An answer depends on the templates of the bag alone. -/
theorem Query.answerFrom_congr {b b' : Bag} (h : b'.template? = b.template?)
    (fallback : Option Locale) (q : Query) :
    q.answerFrom b' fallback = q.answerFrom b fallback := by
  have hresolve := Bag.resolve_congr h
  cases q <;> simp only [Query.answerFrom, Bag.rendered, hresolve]

namespace Store

/-- After every history, a resolver replies to every query as one would that was made at that
    moment, in this store or any other, for a bag with the same templates, with the same fallback
    locale and a cache of any capacity; and asking leaves bags, catalogues and fallback locales as
    they were. -/
theorem ask_run_eq_fresh (es : List Event) (r : Ref Resolver) (x : Resolver) (q : Query)
    (hx : (empty.run es).resolver? r = some x) :
    ∃ reply t, (empty.run es).ask r q = some (reply, t) ∧
      (∀ (u : Store) (b : Ref HeldBag),
        (u.bag? b).map Bag.template? = ((empty.run es).bag? x.bag).map Bag.template? →
        ∀ (capacity : Option Number.Double) (f : Formatter), Formatter.ofCapacity capacity = .ok f →
        ∃ y v, Resolver.ofOptions b (x.fallback.map .known) f = .ok y ∧
          (u.addResolver y).2.ask (u.addResolver y).1 q = some (reply, v)) ∧
      (∀ b, t.bag? b = (empty.run es).bag? b) ∧
      (∀ c, t.catalogue? c = (empty.run es).catalogue? c) ∧
      (∀ r', (t.resolver? r').map (fun y => (y.bag, y.fallback))
        = ((empty.run es).resolver? r').map fun y => (y.bag, y.fallback)) := by
  generalize hs : empty.run es = s at hx
  have hfaithful : s.Faithful := hs ▸ faithful_run es
  obtain ⟨t, hask, hsame, -⟩ := ask_eq hx (hfaithful r x hx) q
  refine ⟨_, t, hask, ?_, bag?_congr hsame.catalogues hsame.bags, ?_, hsame.resolvers⟩
  · intro u b hb capacity f hf
    have hoption : fallbackOption (x.fallback.map .known) = .ok x.fallback := by
      cases x.fallback <;> rfl
    let y : Resolver := { bag := b, fallback := x.fallback, formatter := f }
    have hy : Resolver.ofOptions b (x.fallback.map .known) f = .ok y := by
      rw [Resolver.ofOptions, hoption]
      rfl
    obtain ⟨v, hfresh, -⟩ := ask_eq (resolver?_addResolver u y) (Formatter.faithful_ofCapacity hf) q
    refine ⟨y, v, hy, ?_⟩
    -- the new resolver does not change what the bag is
    have hbehind : (u.addResolver y).2.bagBehind y = (u.bag? b).getD Bag.empty :=
      congrArg (·.getD Bag.empty) (bag?_congr rfl rfl b)
    have htemplates : ((u.bag? b).getD Bag.empty).template? = (s.bagBehind x).template? := by
      rw [bagBehind, ← Option.getD_map Bag.template?, ← Option.getD_map Bag.template?, hb]
    rw [hfresh, hbehind, Query.answerFrom_congr htemplates]
  · intro c
    rw [catalogue?, hsame.catalogues]
    rfl

/-- A template is asked for, edited where the bag keeps it, and asked for again under a fallback
    locale that was refused. -/
theorem ask_run_eq_fresh_edited :
    let q : Query := .translate default "messages" "a" (.count (.integer 1))
    let s := empty.run [
      .newCatalogue default [("messages", [("a", "\x7b1\x7d one | two")])], .newBag [⟨0⟩],
      .newResolver ⟨0⟩ (some (.known default)) none, .ask ⟨0⟩ q,
      .insert ⟨1⟩ "messages" "a" "\x7b?\x7d", .setFallback ⟨0⟩ (some (.tagged "a-b-c"))]
    ∃ x reply t y v, s.resolver? ⟨0⟩ = some x ∧ s.ask ⟨0⟩ q = some (reply, t) ∧
      Resolver.ofOptions x.bag (x.fallback.map .known) .usual = .ok y ∧
      (s.addResolver y).2.ask (s.addResolver y).1 q = some (reply, v) := by
  intro q s
  have hsome : (s.resolver? ⟨0⟩).isSome = true := by decide +kernel
  obtain ⟨x, hx⟩ := Option.isSome_iff_exists.1 hsome
  obtain ⟨reply, t, hask, hfresh, -⟩ := ask_run_eq_fresh _ ⟨0⟩ x q hx
  obtain ⟨y, v, hy, hv⟩ := hfresh s x.bag rfl none .usual rfl
  exact ⟨x, reply, t, y, v, hx, hask, hy, hv⟩

end Store

end Phrasebook

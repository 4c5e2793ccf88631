import Phrasebook.Proofs.Rows
import Phrasebook.Proofs.Store.Ownership

namespace Phrasebook

/-!
# The settings of a resolver

A resolver looks into one bag for good, and its fallback locale is set by calls.  A call whose tag
names no locale is refused and changes nothing, so that the last one that was accepted counts,
whatever else happens in the store.

* `LocaleRef.named?`, `asked?`: the fallback locale that a call asks for.
* `Event.puts?`, `fallbackAfter`: the fallback locale after events, found by going back over them.
* `Store.setting?`: the bag and the fallback locale of a resolver.
* `Store.setting?_step`, `Store.setting?_run`: the settings after one event and after a history.
-/

/-! ### What is asked for -/

/-- The locale that a reference names, if there is one. -/
def LocaleRef.named? : LocaleRef → Option Locale
  | known l => some l
  | tagged tag => Locale.ofTag? tag

/-- The fallback locale that a call asks for, which may be none; nothing where the call is
    refused. -/
def asked? : Option LocaleRef → Option (Option Locale)
  | none => some none
  | some l => l.named?.map some

/-- The fallback locale that an event puts in force for a resolver, if it sets one. -/
def Event.puts? (r : Ref Resolver) : Event → Option (Option Locale)
  | .setFallback r' l => if r' = r then asked? l else none
  | _ => none

/-- No other event puts a fallback locale in force. -/
theorem Event.puts?_eq_none {r : Ref Resolver} {e : Event} (h : ∀ l, e ≠ .setFallback r l) :
    e.puts? r = none := by
  cases e with
  | setFallback r' l => exact if_neg fun hr => h l (by rw [hr])
  | _ => rfl

/-- The fallback locale of a resolver after events: the one that the last call put in force that was
    accepted, or the one before all events. -/
def fallbackAfter (r : Ref Resolver) (fallback : Option Locale) (es : List Event) : Option Locale :=
  (es.reverse.findSome? (Event.puts? r)).getD fallback

theorem fallbackAfter_cons (r : Ref Resolver) (fallback : Option Locale) (e : Event)
    (es : List Event) :
    fallbackAfter r fallback (e :: es) = fallbackAfter r ((e.puts? r).getD fallback) es :=
  getD_findSome?_reverse_cons (Event.puts? r) fallback e es

/-- A fallback locale that is asked for strictly, or none. -/
theorem toOption_localeOrOff (l : Option LocaleRef) : (localeOrOff l).toOption = asked? l := by
  cases l with
  | none => rfl
  | some l =>
    cases l with
    | known l => rfl
    | tagged tag =>
      show ((localeOfTag tag).map some).toOption = (Locale.ofTag? tag).map some
      rw [localeOfTag]
      cases Locale.ofTag? tag <;> rfl

/-- Setting the fallback of a resolver changes that alone, or is refused. -/
theorem Resolver.toOption_setFallback (x : Resolver) (l : Option LocaleRef) :
    (x.setFallback l).toOption = (asked? l).map fun f => { x with fallback := f } := by
  rw [← toOption_localeOrOff, setFallback]
  cases localeOrOff l <;> rfl

namespace Store

/-! ### The settings in a store -/

/-- The bag and the fallback locale of a resolver. -/
def setting? (s : Store) (r : Ref Resolver) : Option (Ref HeldBag × Option Locale) :=
  (s.resolver? r).map fun x => (x.bag, x.fallback)

variable {s : Store} {r : Ref Resolver} {b : Ref HeldBag} {fallback : Option Locale}

/-- A resolver with settings is there with these settings. -/
theorem exists_resolver_of_setting? (h : s.setting? r = some (b, fallback)) :
    ∃ x, s.resolver? r = some x ∧ x.bag = b ∧ x.fallback = fallback := by
  obtain ⟨x, hx, heq⟩ := Option.map_eq_some_iff.1 h
  exact ⟨x, hx, Prod.mk.inj heq⟩

/-- A resolver that is there has its settings. -/
theorem setting?_of_resolver? {x : Resolver} (h : s.resolver? r = some x) :
    s.setting? r = some (x.bag, x.fallback) := by
  rw [setting?, h, Option.map_some]

/-- The settings are those of the resolvers. -/
theorem setting?_congr {t : Store} (h : t.resolvers = s.resolvers) (r : Ref Resolver) :
    t.setting? r = s.setting? r := by
  rw [setting?, setting?, resolver?, resolver?, h]

/-- A new resolver is none that there was. -/
theorem setting?_addResolver (h : s.setting? r = some (b, fallback)) (x : Resolver) :
    (s.addResolver x).2.setting? r = some (b, fallback) := by
  obtain ⟨y, hy, rfl, rfl⟩ := exists_resolver_of_setting? h
  refine setting?_of_resolver? ?_
  show (s.resolvers.push x).get? r = some y
  rw [Arena.get?_push, if_neg (Arena.ne_fresh hy)]
  exact hy

/-- The settings after a resolver is replaced. -/
theorem setting?_setResolver {r' : Ref Resolver} {x : Resolver} (hx : s.resolver? r' = some x)
    (y : Resolver) (r : Ref Resolver) :
    (s.setResolver r' y).setting? r
      = if r = r' then some (y.bag, y.fallback) else s.setting? r := by
  rw [setting?, resolver?_setResolver]
  by_cases hr : r = r'
  · rw [if_pos hr, if_pos hr, hx]
    rfl
  · rw [if_neg hr, if_neg hr, setting?]

/-- Another formatter for a resolver leaves its settings as they are. -/
theorem setting?_setFormatter {r' : Ref Resolver} {x : Resolver} (hx : s.resolver? r' = some x)
    (f : Formatter) (r : Ref Resolver) :
    (s.setResolver r' { x with formatter := f }).setting? r = s.setting? r := by
  rw [setting?_setResolver hx]
  split
  · next hr => rw [hr, setting?_of_resolver? hx]
  · rfl

/-- One event. -/
theorem setting?_step (h : s.setting? r = some (b, fallback)) (e : Event) :
    (s.step e).setting? r = some (b, (e.puts? r).getD fallback) := by
  cases e with
  | newCatalogue | insert | remove | removeAll => exact h
  | newBag cs => exact (setting?_congr (resolvers_addBag s _) r).trans h
  | cloneCatalogue c | merge c other =>
    simp only [step, withCatalogue]
    cases s.catalogue? _ <;> exact h
  | putInBag b' c =>
    simp only [step, withCatalogue]
    split
    · cases s.catalogue? c with
      | none => exact h
      | some cat => exact (setting?_congr (resolvers_putInBag s b' cat) r).trans h
    · exact h
  | appendBag b' other =>
    simp only [step]
    split
    · exact (setting?_congr (resolvers_appendBag s b' other) r).trans h
    · exact h
  | newResolver b' stated capacity =>
    simp only [step]
    split
    · cases resolverOf? b' stated capacity with
      | none => exact h
      | some x => exact setting?_addResolver h x
    · exact h
  | setFallback r' l =>
    obtain ⟨y, hy, rfl, rfl⟩ := exists_resolver_of_setting? h
    simp only [step, withResolver, Event.puts?]
    by_cases hr : r' = r
    · rw [if_pos hr, hr, hy, Option.elim_some, Resolver.toOption_setFallback]
      -- a call that is refused leaves the store as it is
      cases asked? l with
      | none => exact h
      | some f =>
        rw [Option.map_some, Option.elim_some, setting?_setResolver hy, if_pos rfl,
          Option.getD_some]
    · rw [if_neg hr]
      cases hx : s.resolver? r' with
      | none => exact h
      | some x =>
        rw [Option.elim_some, Resolver.toOption_setFallback]
        cases asked? l with
        | none => exact h
        | some f =>
          rw [Option.map_some, Option.elim_some, setting?_setResolver hx, if_neg (Ne.symm hr)]
          exact h
  | ask r' q =>
    simp only [step]
    cases hask : s.ask r' q with
    | none => exact h
    | some p =>
      rcases eq_or_setResolver_of_ask hask with heq | ⟨x, f, hx, heq⟩
      · rw [Option.elim_some, heq]
        exact h
      · rw [Option.elim_some, heq, setting?_setFormatter hx]
        exact h
  | forget r' kept =>
    simp only [step, withResolver]
    cases hx : s.resolver? r' with
    | none => exact h
    | some x => exact (setting?_setFormatter hx _ r).trans h
  | lend r' other =>
    simp only [step, withResolver]
    cases s.resolver? r' with
    | none => exact h
    | some x =>
      simp only [Option.elim_some]
      cases hy : s.resolver? other with
      | none => exact h
      | some y => exact (setting?_setFormatter hy _ r).trans h

/-- Every history. -/
theorem setting?_run (h : s.setting? r = some (b, fallback)) (es : List Event) :
    (s.run es).setting? r = some (b, fallbackAfter r fallback es) := by
  induction es generalizing s fallback with
  | nil => exact h
  | cons e es ih =>
    rw [run_cons, fallbackAfter_cons]
    exact ih (setting?_step h e)

end Store

end Phrasebook

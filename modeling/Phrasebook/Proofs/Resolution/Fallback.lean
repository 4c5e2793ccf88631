import Phrasebook.Proofs.Resolution.Views
import Phrasebook.Proofs.Spelling
import Phrasebook.Proofs.Store.Settings
import Phrasebook.Service

namespace Phrasebook

/-!
# Fallback locales

A fallback locale can be stated among the options of a resolver, set on a resolver later, or stated
among the options of a service.  A tag is read in the same way everywhere: it names a locale, or it
is refused with the tag in the error.  Only the empty tag among the options of a resolver is taken
for no tag at all.

* `FallbackPlace`, `FallbackPlace.Gives`: the three places, and what a tag comes to there.
* `FallbackPlace.gives_known`, `FallbackPlace.gives_unknown_iff`: the tags of known locales, and the
  places where any other tag is refused.
* `Store.Follows`, `Store.follows_run`: a resolver that goes by a fallback locale, after any
  history.
* `fallback_strict_iff`: tags, and runs of calls that are accepted or refused.
* `not_fallback_strict`: the empty tag is not refused everywhere.
-/

/-! ### Places -/

/-- Where a fallback locale can be stated. -/
inductive FallbackPlace
  /-- among the options of a resolver -/
  | option
  /-- in a call that sets the one of a resolver -/
  | call
  /-- among the options of a service -/
  | service
  deriving DecidableEq

namespace FallbackPlace

/-- What stating a tag comes to at a place: an error, or a fallback locale with all else as it was
    stated or as it was. -/
def Gives (tag : String) (outcome : Except Fault (Option Locale)) : FallbackPlace → Prop
  | option => ∀ (bag : Ref HeldBag) (formatter : Formatter),
    Resolver.ofOptions bag (some (.tagged tag)) formatter
      = outcome.map fun l => { bag := bag, fallback := l, formatter := formatter }
  | call => ∀ x : Resolver,
    x.setFallback (some (.tagged tag)) = outcome.map fun l => { x with fallback := l }
  | service => ∀ (o : ServiceOptions) (l : Locale), o.defaultLocale.locale = .ok l →
    o.fallback = .stated (.tagged tag) →
      Service.ofOptions o = outcome.map fun f =>
        { defaultLocale := l
          fallback := f
          directory := o.directory
          extensions := o.extensions
          cacheSize := o.cacheSize }

/-- The call that sets a fallback reads its tag strictly. -/
theorem gives_call (tag : String) : call.Gives tag ((localeOfTag tag).map some) :=
  fun _ => rfl

/-- So does the construction of a service. -/
theorem gives_service (tag : String) : service.Gives tag ((localeOfTag tag).map some) := by
  intro o l hdefault hfallback
  rw [Service.ofOptions, hdefault, hfallback]
  rfl

/-- So does the option of a resolver, unless the tag is empty. -/
theorem gives_option {tag : String} (h : tag ≠ "") :
    option.Gives tag ((localeOfTag tag).map some) := by
  intro bag formatter
  -- only the empty tag is looked at before it is read
  have hread : fallbackOption (some (.tagged tag)) = (localeOfTag tag).map some := by
    unfold fallbackOption
    split
    · next heq => exact absurd (LocaleRef.tagged.inj (Option.some.inj heq)) h
    · rfl
  rw [Resolver.ofOptions, hread]

/-- The empty tag among the options of a resolver states no fallback locale. -/
theorem gives_option_empty : option.Gives "" (.ok none) :=
  fun _ _ => rfl

/-- What every place makes of a tag, but for the empty one among the options of a resolver. -/
theorem gives_of_ne {place : FallbackPlace} {tag : String} (h : ¬ (place = option ∧ tag = "")) :
    place.Gives tag ((localeOfTag tag).map some) := by
  cases place with
  | option => exact gives_option fun htag => h ⟨rfl, htag⟩
  | call => exact gives_call tag
  | service => exact gives_service tag

/-- Every place reads the tag of a known locale as that locale. -/
theorem gives_known {tag : String} {l : Locale} (h : Locale.ofTag? tag = some l)
    (place : FallbackPlace) : place.Gives tag (.ok (some l)) := by
  have hread : (localeOfTag tag).map some = .ok (some l) := by
    rw [localeOfTag_eq_ok_iff.2 h]
    rfl
  rw [← hread]
  apply gives_of_ne
  rintro ⟨-, rfl⟩
  rw [Locale.ofTag?_empty] at h
  exact absurd h (by simp)

/-- The places and tags where a tag that names no locale is refused. -/
theorem gives_unknown_iff {tag : String} (h : Locale.ofTag? tag = none) (place : FallbackPlace) :
    place.Gives tag (.error (.unknownLocale tag)) ↔ ¬ (place = option ∧ tag = "") := by
  constructor
  · rintro hrefused ⟨rfl, rfl⟩
    have hboth := (hrefused ⟨0⟩ .usual).symm.trans (gives_option_empty ⟨0⟩ .usual)
    exact absurd hboth (by simp [Except.map])
  · intro hplace
    have hread : (localeOfTag tag).map some = .error (.unknownLocale tag) := by
      rw [localeOfTag_eq_error_iff.2 ⟨h, rfl⟩]
      rfl
    rw [← hread]
    exact gives_of_ne hplace

end FallbackPlace

/-! ### Calls after one another -/

namespace Store

/-- The resolver at a reference looks into a bag and goes by a fallback locale. -/
structure Follows (s : Store) (r : Ref Resolver) (bag : Ref HeldBag) (fallback : Option Locale) :
    Prop where
  setting : s.setting? r = some (bag, fallback)
  chain : ∀ l, s.reply? r (.chain l) = some (.locales (lookupChain fallback l))
  resolve : ∀ l domain id, s.reply? r (.resolve l domain id)
    = some (.template (((s.bag? bag).getD Bag.empty).resolve (lookupChain fallback l) domain id))

/-- A resolver goes by the settings that it has. -/
theorem follows_of_setting? {s : Store} {r : Ref Resolver} {bag : Ref HeldBag}
    {fallback : Option Locale} (h : s.setting? r = some (bag, fallback)) :
    s.Follows r bag fallback := by
  obtain ⟨x, hx, rfl, rfl⟩ := exists_resolver_of_setting? h
  refine ⟨h, fun l => ?_, fun l domain id => ?_⟩
  · rw [reply?, ask, hx]
    rfl
  · rw [reply?, ask, hx]
    rfl

/-- Every history of a resolver from when it is made. -/
theorem follows_run (s : Store) (x : Resolver) (es : List Event) :
    ((s.addResolver x).2.run es).Follows (s.addResolver x).1 x.bag
      (fallbackAfter (s.addResolver x).1 x.fallback es) := by
  apply follows_of_setting?
  apply setting?_run
  exact setting?_of_resolver? (resolver?_addResolver s x)

/-- A call that is refused changes nothing. -/
theorem step_setFallback_of_refused (s : Store) (r : Ref Resolver) {l : LocaleRef}
    (h : l.named? = none) : s.step (.setFallback r (some l)) = s := by
  simp only [step, withResolver]
  cases s.resolver? r with
  | none => rfl
  | some x =>
    rw [Option.elim_some, Resolver.toOption_setFallback, asked?, h]
    rfl

end Store

/-- Every place reads the tag of a known locale as that locale, and refuses any other tag with an
    error for it, but for the empty tag among the options of a resolver, which states no fallback
    locale.  After every history a resolver goes by the fallback locale of the last call that was
    accepted, or by the one it was made with if none was; a call that is refused changes nothing. -/
theorem fallback_strict_iff (tag : String) (s : Store) (x : Resolver) (es : List Event) :
    (∀ l, Locale.ofTag? tag = some l → ∀ place, FallbackPlace.Gives tag (.ok (some l)) place) ∧
    (Locale.ofTag? tag = none →
      (∀ place, FallbackPlace.Gives tag (.error (.unknownLocale tag)) place
        ↔ ¬ (place = .option ∧ tag = "")) ∧
      ∀ r, s.step (.setFallback r (some (.tagged tag))) = s) ∧
    FallbackPlace.option.Gives "" (.ok none) ∧
    ((s.addResolver x).2.run es).Follows (s.addResolver x).1 x.bag
      (fallbackAfter (s.addResolver x).1 x.fallback es) := by
  refine ⟨fun l => FallbackPlace.gives_known, fun hnone => ?_, FallbackPlace.gives_option_empty,
    Store.follows_run s x es⟩
  exact ⟨FallbackPlace.gives_unknown_iff hnone, fun r => s.step_setFallback_of_refused r hnone⟩

/-- A resolver is made with a variant for its fallback locale, another locale is set, and two more
    calls are refused, one of them for the empty tag: it goes by the locale that was set. -/
theorem fallback_strict_iff_refused :
    let s := Store.empty.run [.newBag []]
    let es : List Event := [.setFallback ⟨0⟩ (some (.tagged "fr")),
      .setFallback ⟨0⟩ (some (.tagged "fr-")), .setFallback ⟨0⟩ (some (.tagged ""))]
    ∃ first second : Locale, first.tag = "en-GB" ∧ second.tag = "fr" ∧
      ∃ x, Resolver.ofOptions ⟨0⟩ (some (.tagged " en_gb")) .usual = .ok x ∧
        x.fallback = some first ∧ (∃ e, x.setFallback (some (.tagged "fr-")) = .error e) ∧
        ((s.addResolver x).2.run es).Follows ⟨0⟩ ⟨0⟩ (some second) := by
  intro s es
  obtain ⟨first, hfirst, htag⟩ := Option.map_eq_some_iff.1
    (show (Locale.ofTag? " en_gb").map Locale.tag = some "en-GB" by decide +kernel)
  obtain ⟨second, hsecond, htag'⟩ := Option.map_eq_some_iff.1
    (show (Locale.ofTag? "fr").map Locale.tag = some "fr" by decide +kernel)
  have hnone : Locale.ofTag? "fr-" = none := by decide +kernel
  let x : Resolver := { bag := ⟨0⟩, fallback := some first, formatter := .usual }
  have hx : Resolver.ofOptions ⟨0⟩ (some (.tagged " en_gb")) .usual = .ok x :=
    (fallback_strict_iff " en_gb" s x es).1 first hfirst .option ⟨0⟩ .usual
  obtain ⟨-, hunknown, -, hfollows⟩ := fallback_strict_iff "fr-" s x es
  have hrefused : x.setFallback (some (.tagged "fr-")) = .error (.unknownLocale "fr-") :=
    ((hunknown hnone).1 .call).2 (by simp) x
  refine ⟨first, second, htag, htag', x, hx, rfl, ⟨_, hrefused⟩, ?_⟩
  have hafter : fallbackAfter ⟨0⟩ x.fallback es = some second := by
    simp [es, fallbackAfter, Event.puts?, asked?, LocaleRef.named?, hsecond, hnone,
      Locale.ofTag?_empty]
  rw [← hafter]
  exact hfollows

/-- The empty tag names no locale, and a call and a service refuse it, but among the options of a
    resolver it is accepted.  So not every place refuses every tag that names no locale. -/
theorem not_fallback_strict :
    Locale.ofTag? "" = none ∧ FallbackPlace.call.Gives "" (.error (.unknownLocale "")) ∧
      FallbackPlace.service.Gives "" (.error (.unknownLocale "")) ∧
      FallbackPlace.option.Gives "" (.ok none) ∧
      ¬ ∀ tag, Locale.ofTag? tag = none → ∀ place,
        FallbackPlace.Gives tag (.error (.unknownLocale tag)) place := by
  have hempty : Locale.ofTag? "" = none := Locale.ofTag?_empty
  have hplaces := FallbackPlace.gives_unknown_iff hempty
  refine ⟨hempty, (hplaces .call).2 (by simp), (hplaces .service).2 (by simp),
    FallbackPlace.gives_option_empty, fun hall => ?_⟩
  exact (hplaces .option).1 (hall "" hempty .option) ⟨rfl, rfl⟩

end Phrasebook

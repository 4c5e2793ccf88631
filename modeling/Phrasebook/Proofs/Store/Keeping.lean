import Phrasebook.Proofs.Store.History
import Phrasebook.Proofs.Store.Settings

namespace Phrasebook

/-!
# Resolvers stay

A resolver looks into one bag for good, whatever happens in the store, and its fallback locale
changes only where it is set.

* `Store.Keeps`: what a change of a store keeps of its resolvers.
* `Store.keeps_message`, `Store.keeps_addResolver`, `Store.keeps_of_resolvers`: the changes that
  keep them.
* `Store.keeps_step`: every event keeps them.
-/

/-- What stays of the resolvers of a store: each looks into the bag that it did, and a spared one
    has the fallback locale that it had.  What is remembered of templates stays right. -/
structure Store.Keeps (spared : Ref Resolver → Prop) (s t : Store) : Prop where
  faithful : t.Faithful
  resolver : ∀ r x, s.resolver? r = some x →
    ∃ y, t.resolver? r = some y ∧ y.bag = x.bag ∧ (spared r → y.fallback = x.fallback)

namespace Store

variable {spared : Ref Resolver → Prop} {s t u : Store}

theorem Keeps.refl (hs : s.Faithful) : Keeps spared s s where
  faithful := hs
  resolver := fun _ x hx => ⟨x, hx, rfl, fun _ => rfl⟩

theorem Keeps.trans (hst : Keeps spared s t) (htu : Keeps spared t u) : Keeps spared s u where
  faithful := htu.faithful
  resolver := by
    intro r x hx
    obtain ⟨y, hy, hbag, hfallback⟩ := hst.resolver r x hx
    obtain ⟨z, hz, hbag', hfallback'⟩ := htu.resolver r y hy
    exact ⟨z, hz, hbag'.trans hbag, fun hr => (hfallback' hr).trans (hfallback hr)⟩

/-- Fewer resolvers are spared. -/
theorem Keeps.mono {spared' : Ref Resolver → Prop} (h : Keeps spared s t)
    (hspared : ∀ r, spared' r → spared r) : Keeps spared' s t where
  faithful := h.faithful
  resolver := by
    intro r x hx
    obtain ⟨y, hy, hbag, hfallback⟩ := h.resolver r x hx
    exact ⟨y, hy, hbag, fun hr => hfallback (hspared r hr)⟩

/-- A resolver that is kept is there. -/
theorem Keeps.isSome (h : Keeps spared s t) {r : Ref Resolver}
    (hr : (s.resolver? r).isSome = true) : (t.resolver? r).isSome = true := by
  obtain ⟨x, hx⟩ := Option.isSome_iff_exists.1 hr
  obtain ⟨y, hy, -⟩ := h.resolver r x hx
  exact Option.isSome_iff_exists.2 ⟨y, hy⟩

/-- A change of catalogues and bags. -/
theorem keeps_of_resolvers (hs : s.Faithful) (ht : t.resolvers = s.resolvers) :
    Keeps spared s t where
  faithful := hs.of_resolvers ht
  resolver := by
    intro r x hx
    refine ⟨x, ?_, rfl, fun _ => rfl⟩
    rw [resolver?, ht]
    exact hx

/-- A new resolver. -/
theorem keeps_addResolver (hs : s.Faithful) {x : Resolver} (hx : x.formatter.Faithful) :
    Keeps spared s (s.addResolver x).2 where
  faithful := hs.addResolver hx
  resolver := by
    intro r y hy
    refine ⟨y, ?_, rfl, fun _ => rfl⟩
    show (s.resolvers.push x).get? r = some y
    rw [Arena.get?_push, if_neg (Arena.ne_fresh hy)]
    exact hy

/-- Another resolver over the same bag put where one is. -/
theorem keeps_setResolver (hs : s.Faithful) {r : Ref Resolver} {x y : Resolver}
    (hx : s.resolver? r = some x) (hy : y.formatter.Faithful) (hbag : y.bag = x.bag)
    (hfallback : spared r → y.fallback = x.fallback) : Keeps spared s (s.setResolver r y) where
  faithful := hs.setResolver r hy
  resolver := by
    intro r' x' hx'
    rw [resolver?_setResolver]
    by_cases hr : r' = r
    · subst hr
      obtain rfl := Option.some.inj (hx.symm.trans hx')
      exact ⟨y, by rw [if_pos rfl, hx]; rfl, hbag, hfallback⟩
    · exact ⟨x', by rw [if_neg hr]; exact hx', rfl, fun _ => rfl⟩

/-- Asking for a message. -/
theorem keeps_message (hs : s.Faithful) {r : Ref Resolver} {l : Locale} {domain id : String}
    {c : Context} {p : Except Failure Rendered × Store} (h : s.message r l domain id c = some p) :
    Keeps spared s p.2 := by
  cases hx : s.resolver? r with
  | none =>
    rw [message, hx] at h
    exact absurd h (by simp)
  | some x =>
    obtain ⟨f, hf, hmessage⟩ := message_eq hx (hs r x hx) l domain id c
    rw [← Option.some.inj (hmessage.symm.trans h)]
    exact keeps_setResolver hs hx hf rfl fun _ => rfl

/-- An event changes the fallback locale of no resolver but the one it names. -/
theorem keeps_step (hs : s.Faithful) (e : Event) :
    Keeps (fun r => ∀ l, e ≠ .setFallback r l) s (s.step e) where
  faithful := faithful_step s e hs
  resolver := by
    intro r x hx
    obtain ⟨y, hy, hbag, hfallback⟩ :=
      exists_resolver_of_setting? (setting?_step (setting?_of_resolver? hx) e)
    refine ⟨y, hy, hbag, fun hr => ?_⟩
    rw [hfallback, Event.puts?_eq_none hr, Option.getD_none]

end Store

end Phrasebook

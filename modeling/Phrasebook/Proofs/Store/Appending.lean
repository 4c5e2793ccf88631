import Phrasebook.Proofs.Store.Building

namespace Phrasebook

/-!
# What is kept when bags are put together

A bag that another one is put into has everything that the two had.  A bag that is put into itself
is emptied like any bag that is put into another one, and so loses what it had.

* `Bag.Gathers`: a bag has the locales of two bags and their templates, those of the second winning.
* `Bag.gathers_append`, `Bag.gathers_empty_iff`: the two outcomes.
* `Store.gathers_appendBag_iff`: after every history, what was there is kept if and only if the bags
  are two different ones, or there was nothing.
* `Store.not_gathers_appendBag`: it is not kept of every two bags.
-/

namespace Bag

/-- A bag has the locales of two bags and, wherever one of them has a template, the template of the
    second one, or else that of the first. -/
structure Gathers (now a b : Bag) : Prop where
  templates : ∀ l domain id,
    (a.template? l domain id).isSome = true ∨ (b.template? l domain id).isSome = true →
      now.template? l domain id = (b.template? l domain id).or (a.template? l domain id)
  locales : ∀ l, a.has l = true ∨ b.has l = true → now.has l = true

/-- Of bags that are put together as values, the one put in gathers both. -/
theorem gathers_append (a : Bag) {b : Bag} (h : b.Keyed) : (a.append b).Gathers a b where
  templates l domain id _ := a.template?_append h l domain id
  locales l hl := by rwa [has_append a h, Bool.or_eq_true]

/-- A bag that is not empty has a locale. -/
theorem exists_has {b : Bag} (h : b.isEmpty = false) : ∃ l, b.has l = true := by
  cases hentries : b.catalogues.entries with
  | nil => exact absurd h (by simp [isEmpty, size, Dict.size, hentries])
  | cons e es =>
    refine ⟨e.1, (Dict.contains_iff b.catalogues e.1).2 ?_⟩
    rw [Dict.keys, hentries]
    exact List.mem_cons_self

/-- Only a bag without catalogues loses nothing when it is emptied. -/
theorem gathers_empty_iff (b : Bag) : empty.Gathers b b ↔ b.isEmpty = true := by
  constructor
  · intro h
    refine Decidable.byContradiction fun hne => ?_
    obtain ⟨l, hl⟩ := exists_has (Bool.eq_false_iff.2 hne)
    exact absurd (h.locales l (Or.inl hl)) Bool.false_ne_true
  · intro h
    have hnone : ∀ l, b.get? l = none := by
      intro l
      have hentries : b.catalogues.entries = [] := List.length_eq_zero_iff.1 (beq_iff_eq.1 h)
      rw [get?, Dict.get?, hentries]
      rfl
    constructor
    · intro l domain id hsome
      rw [template?, hnone, Option.bind_none] at hsome
      exact absurd hsome (by simp)
    · intro l hl
      have hhas : b.has l = (b.get? l).isSome := rfl
      rw [hhas, hnone] at hl
      exact absurd hl (by simp)

end Bag

namespace Store

/-- After every history, a bag that another one was put into has all that the two had before, the
    templates of the other one winning; only a bag that was put into itself loses what it had. -/
theorem gathers_appendBag_iff (es : List Event) {a b : Ref HeldBag} {va vb : Bag}
    (ha : (empty.run es).bag? a = some va) (hb : (empty.run es).bag? b = some vb) :
    ∃ now, ((empty.run es).step (.appendBag a b)).bag? a = some now ∧
      (now.Gathers va vb ↔ a ≠ b ∨ va.isEmpty = true) := by
  have hs : (empty.run es).Owned := owned_run es
  rw [step_appendBag ha hb, bag?_appendBag hs a hb]
  by_cases hab : a = b
  · subst hab
    have hsame : va = vb := Option.some.inj (ha.symm.trans hb)
    subst hsame
    refine ⟨Bag.empty, if_pos rfl, ?_⟩
    rw [Bag.gathers_empty_iff]
    exact (or_iff_right fun hne => hne rfl).symm
  · refine ⟨va.append vb, ?_, iff_of_true (va.gathers_append (hs.keyed hb)) (Or.inl hab)⟩
    rw [if_neg hab, ha]
    rfl

/-- A message that both bags have, one of them in a catalogue that was edited where the bag keeps
    it, a message that only one has, and a locale that only the other has. -/
theorem gathers_appendBag_iff_shared :
    let ar : Locale := ⟨⟨6, lt_length_localeTable (by decide)⟩⟩
    let s := empty.run [.newCatalogue default [("m", [("a", "1"), ("b", "1")])],
      .newCatalogue default [("m", [("b", "2")])], .newCatalogue ar [], .newBag [⟨0⟩],
      .newBag [⟨1⟩, ⟨2⟩], .insert ⟨4⟩ "m" "b" "3"]
    ∃ va vb now, s.bag? ⟨0⟩ = some va ∧ s.bag? ⟨1⟩ = some vb ∧
      (s.step (.appendBag ⟨0⟩ ⟨1⟩)).bag? ⟨0⟩ = some now ∧ now.Gathers va vb ∧
      now.template? default "m" "a" = some "1" ∧ now.template? default "m" "b" = some "3" ∧
      now.has ar = true := by
  intro ar s
  have ha : (s.bag? ⟨0⟩).isSome = true := by decide +kernel
  have hb : (s.bag? ⟨1⟩).isSome = true := by decide +kernel
  obtain ⟨va, ha⟩ := Option.isSome_iff_exists.1 ha
  obtain ⟨vb, hb⟩ := Option.isSome_iff_exists.1 hb
  obtain ⟨now, hnow, hiff⟩ := gathers_appendBag_iff _ ha hb
  have hanswers : ((s.step (.appendBag ⟨0⟩ ⟨1⟩)).bag? ⟨0⟩).map (fun b =>
      (b.template? default "m" "a", b.template? default "m" "b", b.has ar))
        = some (some "1", some "3", true) := by decide +kernel
  rw [hnow, Option.map_some, Option.some.injEq, Prod.mk.injEq, Prod.mk.injEq] at hanswers
  exact ⟨va, vb, now, ha, hb, hnow, hiff.2 (Or.inl (by decide)), hanswers⟩

/-- A bag with one message that is put into itself, so not every two bags are gathered. -/
theorem not_gathers_appendBag :
    let s := empty.run [.newCatalogue default [("m", [("a", "A")])], .newBag [⟨0⟩]]
    (s.bag? ⟨0⟩).map (fun b => b.template? default "m" "a") = some (some "A") ∧
      (s.step (.appendBag ⟨0⟩ ⟨0⟩)).bag? ⟨0⟩ = some Bag.empty ∧
      ¬ ∀ (es : List Event) (a b : Ref HeldBag) (va vb : Bag),
        (empty.run es).bag? a = some va → (empty.run es).bag? b = some vb →
          ∃ now, ((empty.run es).step (.appendBag a b)).bag? a = some now ∧
            now.Gathers va vb := by
  intro s
  have hmessage : (s.bag? ⟨0⟩).map (fun b => b.template? default "m" "a") = some (some "A") := by
    decide +kernel
  have hempty : (s.step (.appendBag ⟨0⟩ ⟨0⟩)).bag? ⟨0⟩ = some Bag.empty := by decide +kernel
  refine ⟨hmessage, hempty, fun h => ?_⟩
  obtain ⟨va, hva, htemplate⟩ := Option.map_eq_some_iff.1 hmessage
  obtain ⟨now, hnow, hgathers⟩ := h _ ⟨0⟩ ⟨0⟩ va va hva hva
  obtain rfl := Option.some.inj (hempty.symm.trans hnow)
  -- the message is gone
  have hkept := hgathers.templates default "m" "a" (Or.inl (by rw [htemplate]; rfl))
  rw [Bag.template?_empty, htemplate] at hkept
  exact absurd hkept (by simp)

end Store

end Phrasebook

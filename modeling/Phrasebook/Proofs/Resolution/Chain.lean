import Phrasebook.Proofs.Locale
import Phrasebook.Proofs.Store.Values

namespace Phrasebook

/-!
# Where a message is looked for

A resolver walks through the locale asked for, its base, the fallback locale and its base.  The
chain that it tries is this walk without repetitions, which does not matter for what is found.

* `walk`: the locales in the order in which they are looked into, repetitions included.
* `nodup_lookupChain`, `mem_lookupChain`, `findSome?_lookupChain`: the chain against the walk.
* `Bag.resolve_eq_some_iff`: what is found is the first template along the walk.
* `OutOfReach`: a catalogue that makes no difference to what is found.
* `Bag.resolve_insert_of_outOfReach`, `Bag.resolve_insert`: what is found after a catalogue was put
  in.
-/

/-! ### Rows of locales without repetitions -/

@[simp] theorem addMissing_nil (ls : List Locale) : addMissing ls [] = ls := rfl

theorem addMissing_cons (ls : List Locale) (l : Locale) (more : List Locale) :
    addMissing ls (l :: more) = addMissing (if l ∈ ls then ls else ls ++ [l]) more := rfl

/-- The locales that are there stay in front. -/
theorem prefix_addMissing (ls more : List Locale) : ls <+: addMissing ls more := by
  induction more generalizing ls with
  | nil => exact List.prefix_rfl
  | cons l more ih =>
    rw [addMissing_cons]
    by_cases h : l ∈ ls
    · rw [if_pos h]
      exact ih ls
    · rw [if_neg h]
      exact (List.prefix_append ls [l]).trans (ih (ls ++ [l]))

/-- Adding what is missing repeats no locale. -/
theorem nodup_addMissing {ls : List Locale} (h : ls.Nodup) (more : List Locale) :
    (addMissing ls more).Nodup := by
  induction more generalizing ls with
  | nil => exact h
  | cons l more ih =>
    rw [addMissing_cons]
    by_cases hl : l ∈ ls
    · rw [if_pos hl]
      exact ih h
    · rw [if_neg hl]
      refine ih (List.nodup_append.2 ⟨h, by simp, fun a ha b hb => ?_⟩)
      rintro rfl
      exact hl (List.mem_singleton.1 hb ▸ ha)

/-- The locales that are there and those that were to be added. -/
theorem mem_addMissing (ls more : List Locale) (l : Locale) :
    l ∈ addMissing ls more ↔ l ∈ ls ∨ l ∈ more := by
  induction more generalizing ls with
  | nil => simp
  | cons m more ih =>
    rw [addMissing_cons, List.mem_cons, ih]
    by_cases hm : m ∈ ls
    · rw [if_pos hm]
      constructor
      · exact fun h => h.imp_right Or.inr
      · rintro (h | rfl | h)
        · exact Or.inl h
        · exact Or.inl hm
        · exact Or.inr h
    · rw [if_neg hm, List.mem_append, List.mem_singleton, or_assoc]

/-- A locale that is left out would be looked into in vain. -/
theorem findSome?_addMissing {α : Type u} (f : Locale → Option α) (ls more : List Locale) :
    (addMissing ls more).findSome? f = (ls ++ more).findSome? f := by
  induction more generalizing ls with
  | nil => rw [addMissing_nil, List.append_nil]
  | cons l more ih =>
    rw [addMissing_cons]
    by_cases hl : l ∈ ls
    · rw [if_pos hl, ih, List.findSome?_append, List.findSome?_append, List.findSome?_cons]
      cases hfound : ls.findSome? f with
      | some a => rfl
      | none =>
        have hnone : f l = none := List.findSome?_eq_none_iff.1 hfound l hl
        rw [hnone]
    · rw [if_neg hl, ih, List.append_assoc]
      rfl

/-! ### The chain of a resolver -/

/-- The locales that are looked into for one, in their order and with repetitions. -/
def walk (fallback : Option Locale) (l : Locale) : List Locale :=
  [l, l.base] ++ (fallback.map fun f => [f, f.base]).getD []

/-- The first find along a chain is that in a locale or in its base. -/
theorem findSome?_chain {α : Type u} (f : Locale → Option α) (l : Locale) :
    l.chain.findSome? f = [l, l.base].findSome? f := by
  rw [Locale.chain_eq]
  cases hvariant : l.isVariant with
  | true => rfl
  | false =>
    rw [Locale.base_of_not_isVariant hvariant]
    cases h : f l <;> simp [h]

/-- A chain has a locale and its base. -/
theorem mem_chain (l k : Locale) : k ∈ l.chain ↔ k ∈ [l, l.base] := by
  rw [Locale.chain_eq]
  cases hvariant : l.isVariant with
  | true => rfl
  | false =>
    rw [Locale.base_of_not_isVariant hvariant]
    simp

/-- No locale is looked into twice. -/
theorem nodup_lookupChain (fallback : Option Locale) (l : Locale) :
    (lookupChain fallback l).Nodup :=
  nodup_addMissing l.nodup_chain _

/-- The locales of a chain are those walked through. -/
theorem mem_lookupChain (fallback : Option Locale) (l k : Locale) :
    k ∈ lookupChain fallback l ↔ k ∈ walk fallback l := by
  rw [lookupChain, mem_addMissing, walk, List.mem_append, mem_chain]
  cases fallback with
  | none => rfl
  | some f => exact or_congr_right (mem_chain f k)

/-- Along the chain the same is found first as along the walk. -/
theorem findSome?_lookupChain {α : Type u} (f : Locale → Option α) (fallback : Option Locale)
    (l : Locale) : (lookupChain fallback l).findSome? f = (walk fallback l).findSome? f := by
  rw [lookupChain, findSome?_addMissing, walk, List.findSome?_append, List.findSome?_append,
    findSome?_chain]
  cases fallback with
  | none => rfl
  | some fb => exact congrArg (Option.or _) (findSome?_chain f fb)

/-- The tags of a chain are as distinct as its locales. -/
theorem nodup_tags_lookupChain (fallback : Option Locale) (l : Locale) :
    ((lookupChain fallback l).map Locale.tag).Nodup :=
  List.pairwise_map.2 ((nodup_lookupChain fallback l).imp fun hne heq =>
    hne (Locale.eq_of_tag_eq heq))

namespace Bag

/-! ### What is found -/

/-- What is found in one locale. -/
def found? (b : Bag) (domain id : String) (l : Locale) : Option Resolved :=
  (b.template? l domain id).map fun t => ⟨l, t⟩

/-- What is found in a locale is the template that the bag has there. -/
theorem found?_eq_some_iff (b : Bag) (domain id : String) (l : Locale) (p : Resolved) :
    b.found? domain id l = some p ↔ p.locale = l ∧ b.template? l domain id = some p.template := by
  rw [found?, Option.map_eq_some_iff]
  constructor
  · rintro ⟨t, ht, rfl⟩
    exact ⟨rfl, ht⟩
  · rintro ⟨rfl, ht⟩
    exact ⟨p.template, ht, rfl⟩

/-- Nothing is found where the bag has no template. -/
theorem found?_eq_none_iff (b : Bag) (domain id : String) (l : Locale) :
    b.found? domain id l = none ↔ b.template? l domain id = none :=
  Option.map_eq_none_iff

/-- What is found along a row of locales is the first template there. -/
theorem resolve_eq_some_iff (b : Bag) (ls : List Locale) (domain id : String) (p : Resolved) :
    b.resolve ls domain id = some p ↔ ∃ before after, ls = before ++ p.locale :: after ∧
      (∀ k ∈ before, b.template? k domain id = none) ∧
      b.template? p.locale domain id = some p.template := by
  have hiff : ls.findSome? (b.found? domain id) = some p ↔ _ := List.findSome?_eq_some_iff
  refine hiff.trans ⟨?_, ?_⟩
  · rintro ⟨before, l, after, hls, hp, hbefore⟩
    obtain ⟨rfl, ht⟩ := (b.found?_eq_some_iff domain id l p).1 hp
    exact ⟨before, after, hls,
      fun k hk => (b.found?_eq_none_iff domain id k).1 (hbefore k hk), ht⟩
  · rintro ⟨before, after, hls, hbefore, ht⟩
    exact ⟨before, p.locale, after, hls, (b.found?_eq_some_iff domain id _ p).2 ⟨rfl, ht⟩,
      fun k hk => (b.found?_eq_none_iff domain id k).2 (hbefore k hk)⟩

/-- Looking into a locale again finds nothing else. -/
theorem resolve_lookupChain (b : Bag) (fallback : Option Locale) (l : Locale)
    (domain id : String) :
    b.resolve (lookupChain fallback l) domain id = b.resolve (walk fallback l) domain id :=
  findSome?_lookupChain _ fallback l

/-! ### What is found after a catalogue was put in -/

/-- A catalogue that makes no difference to what is found along a chain: its locale is not tried,
    it lacks the message, or the message was found in a locale tried before. -/
def OutOfReach (chain : List Locale) (found : Option Resolved) (c : Catalogue)
    (domain id : String) : Prop :=
  c.locale ∉ chain ∨ c.get? domain id = none ∨
    ∃ p, found = some p ∧ chain.idxOf p.locale < chain.idxOf c.locale

/-- A locale has the same template after a catalogue was put in that is of another locale or lacks
    the message. -/
theorem template?_insert_eq {b : Bag} {c : Catalogue} {l : Locale} {domain id : String}
    (h : c.locale ≠ l ∨ c.get? domain id = none) :
    (b.insert c).template? l domain id = b.template? l domain id := by
  rw [template?_insert]
  by_cases hl : c.locale = l
  · rw [if_pos hl, h.resolve_left (not_not_intro hl), Option.none_or]
  · rw [if_neg hl, Option.none_or]

/-- What is found depends on the locales of the chain alone. -/
theorem resolve_congr_chain {b b' : Bag} {chain : List Locale} {domain id : String}
    (h : ∀ l ∈ chain, b'.template? l domain id = b.template? l domain id) :
    b'.resolve chain domain id = b.resolve chain domain id := by
  induction chain with
  | nil => rfl
  | cons l ls ih =>
    have hrest := ih fun k hk => h k (List.mem_cons_of_mem l hk)
    show List.findSome? (b'.found? domain id) (l :: ls)
      = List.findSome? (b.found? domain id) (l :: ls)
    rw [List.findSome?_cons, List.findSome?_cons, found?, found?, h l List.mem_cons_self]
    cases b.template? l domain id with
    | some t => rfl
    | none => exact hrest

/-- A catalogue out of reach changes nothing that is found. -/
theorem resolve_insert_of_outOfReach {b : Bag} {chain : List Locale} {c : Catalogue}
    {domain id : String} (h : OutOfReach chain (b.resolve chain domain id) c domain id) :
    (b.insert c).resolve chain domain id = b.resolve chain domain id := by
  rcases h with hchain | hnone | ⟨p, hp, hbefore⟩
  · exact resolve_congr_chain fun l hl =>
      template?_insert_eq (Or.inl fun heq => hchain (heq ▸ hl))
  · exact resolve_congr_chain fun l _ => template?_insert_eq (Or.inr hnone)
  · -- up to where the template was found, no locale is that of the catalogue
    obtain ⟨before, after, rfl, hmiss, ht⟩ := (b.resolve_eq_some_iff chain domain id p).1 hp
    have hnot : c.locale ∉ before := by
      intro hmem
      have hp' : p.locale ∉ before := fun hmem' => by
        rw [hmiss p.locale hmem'] at ht
        exact absurd ht (by simp)
      have hlt := List.idxOf_lt_length_of_mem hmem
      rw [List.idxOf_append, List.idxOf_append, if_pos hmem, if_neg hp'] at hbefore
      omega
    have hne : c.locale ≠ p.locale := fun heq => by
      rw [heq] at hbefore
      exact absurd hbefore (Nat.lt_irrefl _)
    rw [hp, resolve_eq_some_iff]
    refine ⟨before, after, rfl, fun k hk => ?_, ?_⟩
    · rw [template?_insert_eq (Or.inl fun heq => hnot (heq ▸ hk))]
      exact hmiss k hk
    · rw [template?_insert_eq (Or.inl hne)]
      exact ht

/-- Where one of the first locales has the message, it is found among these. -/
theorem exists_resolve_append {b : Bag} {before : List Locale} {domain id : String} {k : Locale}
    (hk : k ∈ before) (ht : b.template? k domain id ≠ none) (after : List Locale) :
    ∃ p, p.locale ∈ before ∧ b.resolve (before ++ after) domain id = some p := by
  have hsome : (before.findSome? (b.found? domain id)).isSome = true := by
    rw [List.findSome?_isSome_iff]
    refine ⟨k, hk, ?_⟩
    rw [found?, Option.isSome_map]
    exact Option.isSome_iff_ne_none.2 ht
  obtain ⟨p, hp⟩ := Option.isSome_iff_exists.1 hsome
  refine ⟨p, ?_, ?_⟩
  · obtain ⟨first, rest, hbefore, -⟩ := (b.resolve_eq_some_iff before domain id p).1 hp
    rw [hbefore]
    exact List.mem_append_right first List.mem_cons_self
  · show List.findSome? (b.found? domain id) (before ++ after) = some p
    rw [List.findSome?_append, hp]
    rfl

/-- Any other catalogue has the template that is found after it was put in. -/
theorem resolve_insert {b : Bag} {chain : List Locale} {c : Catalogue} {domain id : String}
    (h : ¬ OutOfReach chain (b.resolve chain domain id) c domain id) :
    ∃ t, c.get? domain id = some t ∧
      (b.insert c).resolve chain domain id = some ⟨c.locale, t⟩ := by
  have hchain : c.locale ∈ chain := Decidable.not_not.1 fun hnot => h (Or.inl hnot)
  have hsome : c.get? domain id ≠ none := fun hnone => h (Or.inr (Or.inl hnone))
  obtain ⟨t, ht⟩ := Option.ne_none_iff_exists'.1 hsome
  refine ⟨t, ht, ?_⟩
  obtain ⟨before, after, rfl, hnot⟩ := List.eq_append_cons_of_mem hchain
  rw [resolve_eq_some_iff]
  refine ⟨before, after, rfl, fun k hk => ?_, ?_⟩
  · -- what was there before its locale would have been found first
    have hne : c.locale ≠ k := fun heq => hnot (heq ▸ hk)
    rw [template?_insert_eq (Or.inl hne)]
    refine Decidable.byContradiction fun hsome => ?_
    obtain ⟨p, hmem, hp⟩ := exists_resolve_append hk hsome (c.locale :: after)
    refine h (Or.inr (Or.inr ⟨p, hp, ?_⟩))
    have hlt := List.idxOf_lt_length_of_mem hmem
    rw [List.idxOf_append, List.idxOf_append, if_pos hmem, if_neg hnot]
    omega
  · rw [template?_insert, if_pos rfl, ht]
    rfl

end Bag

/-! ### In a store -/

namespace Store

/-- A catalogue of the store is put into a bag of it. -/
theorem step_putInBag {s : Store} {r : Ref HeldBag} {b : Bag} (hb : s.bag? r = some b)
    {cell : Ref Catalogue} {c : Catalogue} (hc : s.catalogue? cell = some c) :
    s.step (.putInBag r cell) = s.putInBag r c := by
  rw [step, hb, withCatalogue, hc]
  rfl

/-- A resolver answers alike in stores where it finds the same template. -/
theorem renderWith_congr {s t : Store} {x : Resolver} {l : Locale} {domain id : String}
    (h : t.resolve x l domain id = s.resolve x l domain id) :
    t.renderWith x l domain id = s.renderWith x l domain id := by
  funext c
  have hresolve : (t.bagBehind x).resolve (x.chain l) domain id
      = (s.bagBehind x).resolve (x.chain l) domain id := h
  simp only [renderWith, render, hresolve]

/-- After every history, a resolver over a bag tries the locale asked for, then its base if it is a
    variant, and each locale once; it finds the first template on the walk through that locale, its
    base, the fallback locale and its base.  A catalogue that is put into the bag makes no
    difference to any message if it is out of reach, and else what is found is its template. -/
theorem resolve_run_putInBag (es : List Event) (x : Resolver) {b : Bag}
    (hb : (empty.run es).bag? x.bag = some b) (l : Locale) (domain id : String) :
    (l.base.language = l.language ∧ l.base.isVariant = false) ∧
    ((x.chain l).Nodup ∧ (if l.isVariant then [l, l.base] else [l]) <+: x.chain l ∧
      ∀ k, k ∈ x.chain l ↔ k ∈ walk x.fallback l) ∧
    (∀ p, (empty.run es).resolve x l domain id = some p ↔
      ∃ before after, walk x.fallback l = before ++ p.locale :: after ∧
        (∀ k ∈ before, b.template? k domain id = none) ∧
        b.template? p.locale domain id = some p.template) ∧
    ∀ (cell : Ref Catalogue) (c : Catalogue), (empty.run es).catalogue? cell = some c →
      let found := (empty.run es).resolve x l domain id
      let t := (empty.run es).step (.putInBag x.bag cell)
      (Bag.OutOfReach (x.chain l) found c domain id →
        t.resolve x l domain id = found ∧
          ∀ given, t.renderWith x l domain id given
            = (empty.run es).renderWith x l domain id given) ∧
      (¬ Bag.OutOfReach (x.chain l) found c domain id →
        ∃ template, c.get? domain id = some template ∧
          t.resolve x l domain id = some ⟨c.locale, template⟩) := by
  -- of the history only this counts, and what the bag is now
  have howned : (empty.run es).Owned := owned_run es
  generalize empty.run es = s at hb howned ⊢
  have hbehind : s.bagBehind x = b := by
    rw [bagBehind, hb]
    rfl
  have hresolve : s.resolve x l domain id = b.resolve (x.chain l) domain id := by
    rw [Store.resolve, hbehind]
  refine ⟨⟨l.language_base, l.isVariant_base⟩,
    ⟨nodup_lookupChain x.fallback l, ?_, mem_lookupChain x.fallback l⟩, fun p => ?_, ?_⟩
  · rw [← Locale.chain_eq]
    exact prefix_addMissing l.chain _
  -- the chain leaves out repetitions of the walk, where nothing new is found
  · rw [hresolve, Resolver.chain, Bag.resolve_lookupChain]
    exact b.resolve_eq_some_iff _ domain id p
  · intro cell c hc found t
    -- the catalogue is put into the very bag that the resolver looks into
    have hstep : t = s.putInBag x.bag c := step_putInBag hb hc
    have hafter : t.resolve x l domain id = (b.insert c).resolve (x.chain l) domain id := by
      rw [Store.resolve, bagBehind, hstep, bag?_putInBag howned, hb]
      rfl
    have hfound : found = b.resolve (x.chain l) domain id := hresolve
    rw [hfound, hafter]
    constructor
    · intro hout
      have hsame := Bag.resolve_insert_of_outOfReach hout
      refine ⟨hsame, fun given => congrFun (renderWith_congr ?_) given⟩
      rw [hafter, hresolve, hsame]
    · exact Bag.resolve_insert

/-- A message of a regional variant is found in its language, until a catalogue of the variant
    itself is put in. -/
theorem resolve_run_putInBag_variant :
    let ar : Locale := ⟨⟨6, lt_length_localeTable (by decide)⟩⟩
    let arDZ : Locale := ⟨⟨7, lt_length_localeTable (by decide)⟩⟩
    let s := empty.run [.newCatalogue ar [("m", [("a", "one")])], .newBag [⟨0⟩],
      .newCatalogue arDZ [("m", [("a", "two")])]]
    let x : Resolver := { bag := ⟨0⟩, fallback := some default }
    (s.bag? x.bag).isSome = true ∧ s.resolve x arDZ "m" "a" = some ⟨ar, "one"⟩ ∧
      (s.step (.putInBag x.bag ⟨2⟩)).resolve x arDZ "m" "a" = some ⟨arDZ, "two"⟩ := by
  intro ar arDZ s x
  have hsome : (s.bag? x.bag).isSome = true := by decide +kernel
  have hfound : s.resolve x arDZ "m" "a" = some ⟨ar, "one"⟩ := by decide +kernel
  obtain ⟨b, hb⟩ := Option.isSome_iff_exists.1 hsome
  have hcat : (s.catalogue? ⟨2⟩).isSome = true := by decide +kernel
  obtain ⟨c, hc⟩ := Option.isSome_iff_exists.1 hcat
  have hvalues : (s.catalogue? ⟨2⟩).map (fun c => (c.locale, c.get? "m" "a"))
      = some (arDZ, some "two") := by decide +kernel
  rw [hc, Option.map_some, Option.some.injEq, Prod.mk.injEq] at hvalues
  obtain ⟨-, -, -, hinsert⟩ := resolve_run_putInBag _ x hb arDZ "m" "a"
  obtain ⟨t, ht, hafter⟩ := (hinsert ⟨2⟩ c hc).2 (by
    rintro (hchain | hnone | ⟨p, hp, hbefore⟩)
    · rw [hvalues.1] at hchain
      exact absurd hchain (by decide +kernel)
    · exact absurd (hvalues.2.symm.trans hnone) (by simp)
    · have hpair : p = ⟨ar, "one"⟩ := Option.some.inj (hp.symm.trans hfound)
      rw [hpair, hvalues.1] at hbefore
      exact absurd hbefore (by decide +kernel))
  have htemplate : t = "two" := Option.some.inj (ht.symm.trans hvalues.2)
  rw [hvalues.1, htemplate] at hafter
  exact ⟨hsome, hfound, hafter⟩

end Store

end Phrasebook

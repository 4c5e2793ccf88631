import Phrasebook.Bag
import Phrasebook.Proofs.Members
import Phrasebook.Proofs.Text.UnitOrder

namespace Phrasebook

/-!
# Merging catalogues

What a catalogue answers after another one was merged into it, and what a bag answers after
catalogues were put into it.

* `Catalogue.get?_merge`: what is merged in wins.
* `Bag.template?_insert`, `Bag.template?_insertList`: in a bag the last catalogue that has a message
  wins.
* `Bag.has_insertList`: a bag has the locales of the catalogues put in.
* `Bag.Keyed`, `Bag.keyed_ofList`: a bag built from catalogues has each for its own locale.
-/

/-! ### Catalogues -/

namespace Catalogue

/-- A new catalogue has no message. -/
@[simp] theorem get?_new (l : Locale) (domain id : String) :
    get? { locale := l } domain id = none := rfl

@[simp] theorem locale_insert (c : Catalogue) (domain id template : String) :
    (c.insert domain id template).locale = c.locale := rfl

@[simp] theorem locale_remove (c : Catalogue) (domain id : String) :
    (c.remove domain id).locale = c.locale := by
  unfold remove
  split <;> rfl

@[simp] theorem locale_removeAll (c : Catalogue) (domain : String) :
    (c.removeAll domain).locale = c.locale := rfl

@[simp] theorem locale_insertAll (c : Catalogue) (domain : String) (ms : List (String × String)) :
    (c.insertAll domain ms).locale = c.locale := by
  induction ms generalizing c with
  | nil => rfl
  | cons m ms ih => exact (ih (c.insert domain m.1 m.2)).trans (locale_insert c domain m.1 m.2)

@[simp] theorem locale_insertListing (c : Catalogue)
    (listing : List (String × List (String × String))) :
    (c.insertListing listing).locale = c.locale := by
  induction listing generalizing c with
  | nil => rfl
  | cons d ds ih => exact (ih (c.insertAll d.1 d.2)).trans (locale_insertAll c d.1 d.2)

@[simp] theorem locale_merge (c other : Catalogue) : (c.merge other).locale = c.locale :=
  locale_insertListing c _

/-- Messages put under a domain win there. -/
theorem get?_insertAll (c : Catalogue) (domain : String) {ms : List (String × String)}
    (h : (ms.map Prod.fst).Nodup) (domain' id : String) :
    (c.insertAll domain ms).get? domain' id
      = (if domain' = domain then lookupEntry id ms else none).or (c.get? domain' id) := by
  induction ms generalizing c with
  | nil => simp [insertAll, lookupEntry]
  | cons m ms ih =>
    obtain ⟨hhead, htail⟩ := List.nodup_cons.1 h
    have hstep : c.insertAll domain (m :: ms) = (c.insert domain m.1 m.2).insertAll domain ms := rfl
    rw [hstep, ih _ htail, get?_insert]
    by_cases hd : domain' = domain
    · by_cases hid : m.1 = id
      · -- the id does not come again
        have hnone : lookupEntry id ms = none := lookupEntry_of_not_mem (hid ▸ hhead)
        simp [hd, hid, lookupEntry, hnone]
      · simp [hd, hid, Ne.symm hid, lookupEntry]
    · simp [hd]

/-- Messages put under several domains win there. -/
theorem get?_insertListing (c : Catalogue) {listing : List (String × List (String × String))}
    (h : (listing.map Prod.fst).Nodup) (hms : ∀ d ∈ listing, (d.2.map Prod.fst).Nodup)
    (domain id : String) :
    (c.insertListing listing).get? domain id
      = ((lookupEntry domain listing).bind (lookupEntry id)).or (c.get? domain id) := by
  induction listing generalizing c with
  | nil => simp [insertListing, lookupEntry]
  | cons d ds ih =>
    obtain ⟨hhead, htail⟩ := List.nodup_cons.1 h
    have hstep : c.insertListing (d :: ds) = (c.insertAll d.1 d.2).insertListing ds := rfl
    rw [hstep, ih _ htail fun d' hd' => hms d' (List.mem_cons_of_mem d hd'),
      get?_insertAll c d.1 (hms d List.mem_cons_self)]
    by_cases hd : d.1 = domain
    · -- the domain does not come again
      have hnone : lookupEntry domain ds = none := lookupEntry_of_not_mem (hd ▸ hhead)
      simp [hd, lookupEntry, hnone]
    · simp [hd, Ne.symm hd, lookupEntry]

/-- The listing has the domains in their order. -/
theorem keys_listing (c : Catalogue) : c.listing.map Prod.fst = c.domains := by
  rw [listing, List.map_map]
  exact List.map_id _

/-- No domain is there twice. -/
theorem nodup_domains (c : Catalogue) : c.domains.Nodup :=
  (Text.sortNames_perm c.messages.keys).nodup_iff.2 c.messages.nodup

/-- No domain is listed twice. -/
theorem nodup_listing (c : Catalogue) : (c.listing.map Prod.fst).Nodup := by
  rw [keys_listing]
  exact c.nodup_domains

/-- A domain lists no id twice. -/
theorem nodup_of_getAll? {c : Catalogue} {domain : String} {ms : List (String × String)}
    (h : c.getAll? domain = some ms) : (ms.map Prod.fst).Nodup := by
  obtain ⟨d, -, rfl⟩ := Option.map_eq_some_iff.1 h
  exact nodup_arrange d.nodup

/-- No domain of the listing has an id twice. -/
theorem nodup_of_mem_listing {c : Catalogue} {d : String × List (String × String)}
    (h : d ∈ c.listing) : (d.2.map Prod.fst).Nodup := by
  obtain ⟨domain, -, rfl⟩ := List.mem_map.1 h
  cases hall : c.getAll? domain with
  | none => simp
  | some ms => exact nodup_of_getAll? hall

/-- What is listed under a domain is what the domain has. -/
theorem lookupEntry_listing (c : Catalogue) (domain : String) :
    lookupEntry domain c.listing = c.getAll? domain := by
  refine Option.ext fun ms => ?_
  rw [lookupEntry_eq_some_iff c.nodup_listing, listing, List.mem_map]
  constructor
  · rintro ⟨d, hd, heq⟩
    obtain ⟨rfl, rfl⟩ := Prod.mk.inj heq
    have hsome : (c.messages.get? d).isSome = true :=
      (lookupEntry_isSome d c.messages.entries).2 (Text.mem_sortNames.1 hd)
    obtain ⟨m, hm⟩ := Option.isSome_iff_exists.1 hsome
    simp [getAll?, hm]
  · intro hms
    have hsome : (c.messages.get? domain).isSome = true := by
      have h : (c.getAll? domain).isSome = true := by rw [hms]; rfl
      rwa [getAll?, Option.isSome_map] at h
    refine ⟨domain, Text.mem_sortNames.2 ((lookupEntry_isSome _ _).1 hsome), ?_⟩
    rw [hms]
    rfl

/-- What a domain lists under an id is the template there. -/
theorem getAll?_bind_lookupEntry (c : Catalogue) (domain id : String) :
    (c.getAll? domain).bind (lookupEntry id) = c.get? domain id := by
  rw [getAll?, get?]
  cases c.messages.get? domain with
  | none => rfl
  | some ms => exact lookupEntry_perm (arrange_perm ms.entries) ms.nodup id

/-- What is merged in wins. -/
theorem get?_merge (c other : Catalogue) (domain id : String) :
    (c.merge other).get? domain id = (other.get? domain id).or (c.get? domain id) := by
  rw [merge, get?_insertListing c other.nodup_listing fun d hd => nodup_of_mem_listing hd,
    lookupEntry_listing,
    getAll?_bind_lookupEntry]

end Catalogue

/-! ### Bags -/

namespace Bag

/-- An empty bag has no template. -/
@[simp] theorem template?_empty (l : Locale) (domain id : String) :
    empty.template? l domain id = none := rfl

/-- In its locale, a catalogue that is put in wins. -/
theorem template?_insert (b : Bag) (c : Catalogue) (l : Locale) (domain id : String) :
    (b.insert c).template? l domain id
      = (if c.locale = l then c.get? domain id else none).or (b.template? l domain id) := by
  by_cases hl : c.locale = l
  · subst hl
    rw [if_pos rfl, template?, template?, get?, insert, Dict.get?_insert, if_pos rfl,
      Option.bind_some, Catalogue.get?_merge]
    congr 1
    cases b.get? c.locale <;> rfl
  · rw [if_neg hl, template?, template?, get?, insert, Dict.get?_insert, if_neg (Ne.symm hl)]
    rfl

/-- In a bag, the last catalogue that has a message wins. -/
theorem template?_insertList (b : Bag) (cs : List Catalogue) (l : Locale) (domain id : String) :
    (b.insertList cs).template? l domain id
      = (cs.reverse.findSome? fun c => if c.locale = l then c.get? domain id else none).or
          (b.template? l domain id) := by
  induction cs generalizing b with
  | nil => rfl
  | cons c cs ih =>
    have hstep : b.insertList (c :: cs) = (b.insert c).insertList cs := rfl
    rw [hstep, ih, template?_insert, List.reverse_cons, List.findSome?_append, Option.or_assoc]
    simp

/-- A bag has the locales that it had and that of the catalogue put in. -/
theorem has_insert (b : Bag) (c : Catalogue) (l : Locale) :
    (b.insert c).has l = (decide (c.locale = l) || b.has l) := by
  rw [has, has, insert, Dict.contains, Dict.contains, Dict.get?_insert]
  by_cases h : l = c.locale
  · simp [h]
  · simp [h, Ne.symm h]

/-- A bag has the locales of the catalogues put in. -/
theorem has_insertList (b : Bag) (cs : List Catalogue) (l : Locale) :
    (b.insertList cs).has l = true ↔ (∃ c ∈ cs, c.locale = l) ∨ b.has l = true := by
  induction cs generalizing b with
  | nil => simp [insertList]
  | cons c cs ih =>
    have hstep : b.insertList (c :: cs) = (b.insert c).insertList cs := rfl
    rw [hstep, ih, has_insert, Bool.or_eq_true, decide_eq_true_eq]
    simp only [List.mem_cons, exists_eq_or_imp]
    rw [or_left_comm, or_assoc]

/-! ### Bags with catalogues for their own locales -/

/-- Every catalogue is one of the locale that the bag has it for. -/
def Keyed (b : Bag) : Prop :=
  ∀ l c, b.get? l = some c → c.locale = l

theorem keyed_empty : empty.Keyed :=
  fun _ _ h => absurd h (by simp [get?, empty])

/-- A catalogue is put in for its own locale. -/
theorem Keyed.insert {b : Bag} (h : b.Keyed) (c : Catalogue) : (b.insert c).Keyed := by
  intro l c' hc'
  rw [get?, Bag.insert, Dict.get?_insert] at hc'
  split at hc'
  · next hl =>
    rw [← Option.some.inj hc', Catalogue.locale_merge, hl]
    cases hget : b.get? c.locale with
    | none => rfl
    | some held => exact h c.locale held hget
  · exact h l c' hc'

/-- So is each of a row of catalogues. -/
theorem Keyed.insertList {b : Bag} (h : b.Keyed) (cs : List Catalogue) :
    (b.insertList cs).Keyed := by
  induction cs generalizing b with
  | nil => exact h
  | cons c cs ih => exact ih (h.insert c)

/-- A bag built from catalogues has each for its own locale. -/
theorem keyed_ofList (cs : List Catalogue) : (ofList cs).Keyed :=
  keyed_empty.insertList cs

/-- The entries of such a bag are its catalogues with their locales. -/
theorem Keyed.map_values {b : Bag} (h : b.Keyed) :
    b.catalogues.values.map (fun c => (c.locale, c)) = b.catalogues.entries := by
  rw [Dict.values, List.map_map]
  refine (List.map_congr_left fun e he => ?_).trans (List.map_id _)
  have hlocale : e.2.locale = e.1 := h e.1 e.2 ((Dict.get?_eq_some_iff _ _ _).2 he)
  exact Prod.ext hlocale rfl

/-- The locales of its catalogues are the locales of the bag. -/
theorem Keyed.map_locale_values {b : Bag} (h : b.Keyed) :
    b.catalogues.values.map Catalogue.locale = b.catalogues.keys := by
  rw [Dict.keys, ← h.map_values, List.map_map]
  rfl

end Bag

end Phrasebook

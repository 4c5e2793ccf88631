import Phrasebook.Proofs.Catalogue.FiniteMap
import Phrasebook.Proofs.Catalogue.Views

namespace Phrasebook

/-!
# Clones

A clone has the messages of its original put into a new catalogue.  A domain comes into being with
its first message but stays when its last one is removed, so the original may have domains that the
clone has not.

* `Catalogue.Script.Emptied`: the domains that lost their last message in a script.
* `Catalogue.isSome_messages_catalogue`: they and the domains with messages are all that there are.
* `Catalogue.getAll?_clone`: a clone has the domains that list something.
* `Catalogue.Alike`: catalogues that answer every question alike.
* `Catalogue.clone_alike_iff`: a clone answers as its original if and only if no domain was emptied.
-/

/-- A domain has messages. -/
def MessageMap.Fills (m : MessageMap) (domain : String) : Prop :=
  ∃ id t, m domain id = some t

namespace MessageMap

/-- A domain with a message put in has messages. -/
theorem fills_insert (m : MessageMap) (domain id template domain' : String) :
    (m.insert domain id template).Fills domain' ↔ domain' = domain ∨ m.Fills domain' := by
  unfold Fills insert
  by_cases hd : domain' = domain
  · refine iff_of_true ⟨id, template, ?_⟩ (Or.inl hd)
    rw [if_pos ⟨hd, rfl⟩]
  · simp [hd]

/-- A domain that has messages without one of them has messages. -/
theorem fills_of_remove {m : MessageMap} {domain id domain' : String}
    (h : (m.remove domain id).Fills domain') : m.Fills domain' := by
  obtain ⟨id', t, ht⟩ := h
  unfold remove at ht
  split at ht
  · exact absurd ht (by simp)
  · exact ⟨id', t, ht⟩

/-- A domain that is taken away has no messages; the others are as before. -/
theorem fills_removeAll (m : MessageMap) (domain domain' : String) :
    (m.removeAll domain).Fills domain' ↔ domain' ≠ domain ∧ m.Fills domain' := by
  unfold Fills removeAll
  by_cases hd : domain' = domain <;> simp [hd]

/-- A domain of two maps has messages if it has some in either. -/
theorem fills_union (m other : MessageMap) (domain : String) :
    (m.union other).Fills domain ↔ m.Fills domain ∨ other.Fills domain := by
  unfold Fills union
  constructor
  · rintro ⟨id, t, h⟩
    rcases Option.or_eq_some_iff.1 h with h | ⟨-, h⟩
    · exact Or.inr ⟨id, t, h⟩
    · exact Or.inl ⟨id, t, h⟩
  · rintro (⟨id, t, h⟩ | ⟨id, t, h⟩)
    · cases ho : other domain id with
      | none => exact ⟨id, t, by rw [ho, h]; rfl⟩
      | some t' => exact ⟨id, t', by rw [ho]; rfl⟩
    · exact ⟨id, t, by rw [h]; rfl⟩

end MessageMap

namespace Catalogue

/-! ### Domains without messages -/

/-- In a script a domain lost its last message, and since then none was put into it and it was not
    taken away. -/
def Script.Emptied : Script → String → Prop
  | start _ _, _ => False
  | insert p domain _ _, d => d ≠ domain ∧ p.Emptied d
  | remove p domain id, d =>
    p.Emptied d ∨ (p.map.Fills d ∧ ¬ (p.map.remove domain id).Fills d)
  | removeAll p domain, d => d ≠ domain ∧ p.Emptied d
  | merge p other, d => p.Emptied d ∧ ¬ other.map.Fills d

/-- An emptied domain has no messages. -/
theorem Script.Emptied.not_fills {p : Script} {d : String} (h : p.Emptied d) :
    ¬ p.map.Fills d := by
  induction p with
  | start l domains => exact h.elim
  | insert p domain id template ih =>
    obtain ⟨hd, h⟩ := h
    rw [Script.map, MessageMap.fills_insert]
    exact not_or.2 ⟨hd, ih h⟩
  | remove p domain id ih =>
    rcases h with h | ⟨-, h⟩
    · exact mt MessageMap.fills_of_remove (ih h)
    · exact h
  | removeAll p domain ih =>
    rw [Script.map, MessageMap.fills_removeAll]
    exact fun hfills => ih h.2 hfills.2
  | merge p other ih _ =>
    obtain ⟨h, hother⟩ := h
    rw [Script.map, MessageMap.fills_union]
    exact not_or.2 ⟨ih h, hother⟩

/-- The domains of a catalogue are those that have messages and those that were emptied. -/
theorem isSome_messages_catalogue (p : Script) (d : String) :
    (p.catalogue.messages.get? d).isSome = true ↔ p.map.Fills d ∨ p.Emptied d := by
  induction p with
  | start l domains =>
    have hget : ∀ id, (Script.start l domains).map d id
        = ((ofMessages l domains).messages.get? d).bind fun m => m.get? id :=
      fun id => (get?_ofMessages l domains d id).symm
    -- in a new catalogue each domain came into being with a message
    simp only [MessageMap.Fills, hget]
    show ((ofMessages l domains).messages.get? d).isSome = true ↔ _ ∨ False
    rw [messages_ofMessages, isSome_putMessages]
    simp only [get?_putMessages]
    simp
  | insert p domain id template ih =>
    rw [Script.map, MessageMap.fills_insert]
    show ((p.catalogue.insert domain id template).messages.get? d).isSome = true ↔
      _ ∨ (d ≠ domain ∧ p.Emptied d)
    rw [messages_insert]
    by_cases hd : d = domain
    · rw [if_pos hd]
      exact iff_of_true rfl (Or.inl (Or.inl hd))
    · rw [if_neg hd, ih]
      simp [hd]
  | remove p domain id ih =>
    have hsame : ((p.catalogue.remove domain id).messages.get? d).isSome
        = (p.catalogue.messages.get? d).isSome := by
      rw [messages_remove]
      split
      · next hd => rw [hd, Option.isSome_map]
      · rfl
    show ((p.catalogue.remove domain id).messages.get? d).isSome = true ↔
      (p.map.remove domain id).Fills d ∨
        (p.Emptied d ∨ (p.map.Fills d ∧ ¬ (p.map.remove domain id).Fills d))
    rw [hsame, ih]
    -- a domain with messages keeps some, or it is emptied now
    by_cases hrest : (p.map.remove domain id).Fills d
    · exact iff_of_true (Or.inl (MessageMap.fills_of_remove hrest)) (Or.inl hrest)
    · simp [hrest, or_comm]
  | removeAll p domain ih =>
    rw [Script.map, MessageMap.fills_removeAll]
    show ((p.catalogue.removeAll domain).messages.get? d).isSome = true ↔
      _ ∨ (d ≠ domain ∧ p.Emptied d)
    rw [messages_removeAll]
    by_cases hd : d = domain
    · simp [hd]
    · rw [if_neg hd, ih]
      simp [hd]
  | merge p other ih _ =>
    have hother : (∃ id t, lookupEntry id (listed (other.catalogue.messages.get? d)).reverse
        = some t) ↔ other.map.Fills d := by
      refine exists_congr fun id => exists_congr fun t => ?_
      rw [lookupEntry_listed, ← get?_catalogue]
      rfl
    show ((p.catalogue.merge other.catalogue).messages.get? d).isSome = true ↔
      (p.map.union other.map).Fills d ∨ (p.Emptied d ∧ ¬ other.map.Fills d)
    rw [messages_merge, isSome_putMessages, hother, ih, MessageMap.fills_union]
    -- an emptied domain is filled again if the other catalogue has messages for it
    by_cases hfills : other.map.Fills d
    · exact iff_of_true (Or.inr hfills) (Or.inl (Or.inr hfills))
    · simp [hfills]

/-- A domain that is there and lists nothing was emptied. -/
theorem getAll?_eq_some_nil_iff (p : Script) (d : String) :
    p.catalogue.getAll? d = some [] ↔ p.Emptied d := by
  have htable := p.catalogue.tabulates_getAll? d
  have hthere : (p.catalogue.getAll? d).isSome = true ↔ p.map.Fills d ∨ p.Emptied d := by
    rw [getAll?_eq_map, Option.isSome_map]
    exact isSome_messages_catalogue p d
  constructor
  · intro h
    rcases hthere.1 (by rw [h]; rfl) with ⟨id, t, ht⟩ | hemptied
    · rw [← get?_catalogue] at ht
      have hmem := (htable.mem_iff id t).2 ht
      rw [h] at hmem
      exact absurd hmem List.not_mem_nil
    · exact hemptied
  · intro h
    obtain ⟨ms, hms⟩ := Option.isSome_iff_exists.1 (hthere.2 (Or.inr h))
    -- a message that it lists would be one that the map has
    rw [hms] at htable ⊢
    refine congrArg some (List.eq_nil_iff_forall_not_mem.2 fun ⟨id, t⟩ hmem => ?_)
    have ht := (htable.mem_iff id t).1 hmem
    rw [get?_catalogue] at ht
    exact h.not_fills ⟨id, t, ht⟩

/-! ### What a clone answers -/

/-- A clone has every message of its original. -/
theorem get?_clone (c : Catalogue) (domain id : String) :
    c.clone.get? domain id = c.get? domain id := by
  rw [clone, get?_merge, get?_new, Option.or_none]

/-- A clone has the domains that list something, and each lists the same in the same order. -/
theorem getAll?_clone (c : Catalogue) (domain : String) :
    c.clone.getAll? domain = (c.getAll? domain).filter (· ≠ []) := by
  rw [getAll?_eq_map, getAll?_eq_map, clone, messages_merge]
  cases c.messages.get? domain with
  | none => rfl
  | some m =>
    show (putMessages none (arrange m.entries)).map _ = (some (arrange m.entries)).filter _
    by_cases hnone : arrange m.entries = []
    · rw [hnone]
      rfl
    · rw [putMessages, if_neg hnone, Option.filter_some, if_pos (decide_eq_true hnone)]
      exact congrArg some (arrange_ofList_arrange m)

/-- As many messages have a template in either of two catalogues, if the same ones have. -/
theorem size_eq_of_get? {c c' : Catalogue} (h : c.get? = c'.get?) : c.size = c'.size := by
  have hcard : (c.size : ℕ∞) = c'.size := by rw [← encard_keys, ← encard_keys, h]
  exact ENat.natCast_inj.1 hcard

/-- Catalogues that answer every question alike. -/
structure Alike (c c' : Catalogue) : Prop where
  locale : c.locale = c'.locale
  size : c.size = c'.size
  domains : c.domains = c'.domains
  getAll : ∀ domain, c.getAll? domain = c'.getAll? domain
  get : ∀ domain id, c.get? domain id = c'.get? domain id
  has : ∀ domain id, c.has domain id = c'.has domain id
  record : c.toRecord = c'.toRecord

/-- A clone has every message of its original and answers alike for each of them.  It lacks the
    domains that were emptied, and nothing else: it answers every question as its original does if
    and only if there are none. -/
theorem clone_alike_iff (p : Script) :
    (p.catalogue.clone.locale = p.catalogue.locale ∧
      p.catalogue.clone.size = p.catalogue.size ∧
      ∀ d id, p.catalogue.clone.get? d id = p.catalogue.get? d id ∧
        p.catalogue.clone.has d id = p.catalogue.has d id) ∧
    (∀ d, p.Emptied d → p.catalogue.getAll? d = some [] ∧ p.catalogue.clone.getAll? d = none) ∧
    (∀ d, ¬ p.Emptied d → p.catalogue.clone.getAll? d = p.catalogue.getAll? d) ∧
    (p.catalogue.clone.Alike p.catalogue ↔ ∀ d, ¬ p.Emptied d) := by
  -- a clone is a merge into an empty catalogue, so every message comes over
  have hlocale : p.catalogue.clone.locale = p.catalogue.locale := locale_merge _ _
  have hget : p.catalogue.clone.get? = p.catalogue.get? := by
    funext d id
    exact get?_clone p.catalogue d id
  have hhas : ∀ d id, p.catalogue.clone.has d id = p.catalogue.has d id := by
    intro d id
    rw [Bool.eq_iff_iff, has_iff, has_iff, hget]
  have hemptied : ∀ d, p.Emptied d →
      p.catalogue.getAll? d = some [] ∧ p.catalogue.clone.getAll? d = none := by
    intro d hd
    have hnil := (getAll?_eq_some_nil_iff p d).2 hd
    refine ⟨hnil, ?_⟩
    rw [getAll?_clone, hnil]
    rfl
  -- a domain that was not emptied lists something or is not there
  have hkept : ∀ d, ¬ p.Emptied d →
      p.catalogue.clone.getAll? d = p.catalogue.getAll? d := by
    intro d hd
    rw [getAll?_clone]
    cases hall : p.catalogue.getAll? d with
    | none => rfl
    | some ms =>
      have hsome : ms ≠ [] := by
        rintro rfl
        exact hd ((getAll?_eq_some_nil_iff p d).1 hall)
      rw [Option.filter_some, if_pos (decide_eq_true hsome)]
  refine ⟨⟨hlocale, size_eq_of_get? hget, fun d id => ⟨congrFun (congrFun hget d) id, hhas d id⟩⟩,
    hemptied, hkept, ?_⟩
  constructor
  · intro halike d hd
    obtain ⟨hnil, hnone⟩ := hemptied d hd
    have hsame := halike.getAll d
    rw [hnil, hnone] at hsame
    exact absurd hsame (by simp)
  · intro h
    -- with the same domains, all other answers are the same as well
    have hview : p.catalogue.clone.view = p.catalogue.view :=
      view_eq_iff.2 fun d => hkept d (h d)
    exact
      { locale := hlocale
        size := congrArg View.size hview
        domains := congrArg View.domains hview
        getAll := fun d => hkept d (h d)
        get := fun d id => congrFun (congrFun hget d) id
        has := hhas
        record := congrArg View.record hview }

/-- The only message of a domain removed again: its clone does not have the domain. -/
theorem not_clone_alike : ¬ ∀ p : Script, p.catalogue.clone.Alike p.catalogue := by
  intro h
  have hdomains := (h ((Script.start default [("m", [("a", "A")])]).remove "m" "a")).domains
  revert hdomains
  decide +kernel

end Catalogue

end Phrasebook

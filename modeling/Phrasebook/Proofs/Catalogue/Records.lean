import Mathlib.Algebra.BigOperators.Group.List.Basic
import Phrasebook.Proofs.Catalogue.Cloning

namespace Phrasebook

/-!
# Catalogues written as records

A record of domains can hold every domain but one.  What a catalogue loses when it is written as a
record and built again from it is that domain, and besides only what a clone loses: the domains that
hold nothing.

* `Catalogue.lookupEntry_toRecord`: what the record of a catalogue has under each name.
* `Catalogue.size_removeAll`: how many messages are taken away with a domain.
* `Catalogue.rebuilt`: a catalogue written as a record and built from it.
* `Catalogue.view_rebuilt`: it answers as a clone from which the one domain was taken away.
* `Catalogue.rebuilt_spec`: so what it answers to each question.
-/

namespace Catalogue

/-! ### The record -/

/-- No domain is in a record twice. -/
theorem nodup_toRecord (c : Catalogue) : (c.toRecord.map Prod.fst).Nodup :=
  nodup_arrange (c.nodup_listing.sublist (List.filter_sublist.map Prod.fst))

/-- A record has each domain of the catalogue but one, with what it lists. -/
theorem lookupEntry_toRecord (c : Catalogue) (domain : String) :
    lookupEntry domain c.toRecord
      = if domain = unlistedDomain then none else c.getAll? domain := by
  have hnodup : ((c.listing.filter fun d => d.1 ≠ unlistedDomain).map Prod.fst).Nodup :=
    c.nodup_listing.sublist (List.filter_sublist.map Prod.fst)
  rw [toRecord, lookupEntry_perm (arrange_perm _) hnodup,
    lookupEntry_filter (fun d => decide (d ≠ unlistedDomain)), lookupEntry_listing]
  simp

/-! ### A domain taken away -/

/-- With a domain as many messages are taken away as it lists. -/
theorem size_removeAll (c : Catalogue) (domain : String) :
    (c.removeAll domain).size + ((c.getAll? domain).getD []).length = c.size := by
  have hkeys : (c.removeAll domain).messages.keys = c.messages.keys.filter (· ≠ domain) :=
    Dict.keys_erase c.messages domain
  have hkept : (c.removeAll domain).size
      = ((c.messages.keys.filter (· ≠ domain)).map fun d =>
          ((c.getAll? d).getD []).length).sum := by
    rw [size_eq_sum, hkeys]
    refine congrArg List.sum (List.map_congr_left fun d hd => ?_)
    have hne : d ≠ domain := of_decide_eq_true (List.mem_filter.1 hd).2
    rw [getAll?_eq_map, messages_removeAll, if_neg hne, getAll?_eq_map]
  have herase : c.messages.keys.filter (· ≠ domain) = c.messages.keys.erase domain := by
    have hnodup : c.messages.keys.Nodup := c.messages.nodup
    rw [hnodup.erase_eq_filter]
    refine List.filter_congr fun d _ => ?_
    rw [Bool.eq_iff_iff, decide_eq_true_eq, bne_iff_ne]
  rw [hkept, herase, size_eq_sum]
  by_cases hdomain : domain ∈ c.messages.keys
  · rw [Nat.add_comm]
    exact List.sum_map_erase (fun d => ((c.getAll? d).getD []).length) hdomain
  · -- a domain that is not there lists nothing
    have hnone : c.getAll? domain = none :=
      Option.not_isSome_iff_eq_none.1 (mt (c.mem_keys_messages domain).2 hdomain)
    rw [List.erase_of_not_mem hdomain, hnone]
    rfl

/-! ### Built again -/

/-- A catalogue written as a record of domains and built from it. -/
def rebuilt (c : Catalogue) : Catalogue :=
  ofMessages c.locale c.toRecord

/-- The messages of each domain, once a catalogue is built from its record. -/
theorem messages_rebuilt (c : Catalogue) (domain : String) :
    c.rebuilt.messages.get? domain
      = (c.clone.removeAll unlistedDomain).messages.get? domain := by
  rw [rebuilt, messages_ofMessages, lookupEntry_perm (List.reverse_perm _) c.nodup_toRecord,
    lookupEntry_toRecord, messages_removeAll]
  split
  · rfl
  · rw [clone, messages_merge, getAll?_eq_map]
    cases c.messages.get? domain with
    | none => rfl
    | some m =>
      -- what is listed is in the order of a record already
      have hlist : Members.ofList (arrange m.entries) = arrange m.entries :=
        arrange_ofList_arrange m
      show putMessages none (Members.ofList (arrange m.entries))
        = putMessages none (arrange m.entries)
      rw [hlist]

/-- What each domain lists once one is taken away. -/
theorem getAll?_removeAll (c : Catalogue) (domain domain' : String) :
    (c.removeAll domain).getAll? domain'
      = if domain' = domain then none else c.getAll? domain' := by
  rw [getAll?_eq_map, messages_removeAll, getAll?_eq_map]
  split <;> rfl

/-- A catalogue built from its record answers as a clone that the one domain was taken from. -/
theorem view_rebuilt (c : Catalogue) :
    c.rebuilt.view = (c.clone.removeAll unlistedDomain).view := by
  refine view_eq_iff.2 fun domain => ?_
  rw [getAll?_eq_map, getAll?_eq_map, messages_rebuilt]

/-- The templates of a catalogue that is built from its record. -/
theorem get?_rebuilt (c : Catalogue) (domain id : String) :
    c.rebuilt.get? domain id = if domain = unlistedDomain then none else c.get? domain id := by
  rw [get?, messages_rebuilt]
  show (c.clone.removeAll unlistedDomain).get? domain id = _
  rw [get?_removeAll, get?_clone]

/-- A catalogue built from its record lists the domains that listed something, in the same order. -/
theorem getAll?_rebuilt (c : Catalogue) (domain : String) :
    c.rebuilt.getAll? domain
      = if domain = unlistedDomain then none else (c.getAll? domain).filter (· ≠ []) := by
  rw [getAll?_eq_map, messages_rebuilt, ← getAll?_eq_map, getAll?_removeAll, getAll?_clone]

/-- A catalogue built from its record has the domains that have messages. -/
theorem mem_domains_rebuilt (c : Catalogue) (domain : String) :
    domain ∈ c.rebuilt.domains ↔ ∃ id template, c.rebuilt.get? domain id = some template := by
  have hthere := isSome_messages_catalogue (.start c.locale c.toRecord) domain
  have hnew : ¬ (Script.start c.locale c.toRecord).Emptied domain := fun h => h
  rw [or_iff_left hnew, MessageMap.Fills] at hthere
  simp only [← get?_catalogue] at hthere
  rw [domains, Text.mem_sortNames, mem_keys_messages, getAll?_eq_map, Option.isSome_map]
  exact hthere

/-- The messages of the one domain are those that are lost. -/
theorem size_rebuilt (c : Catalogue) :
    c.rebuilt.size + ((c.getAll? unlistedDomain).getD []).length = c.size := by
  have hsize : c.rebuilt.size = (c.clone.removeAll unlistedDomain).size :=
    congrArg View.size c.view_rebuilt
  have hclone : c.clone.size = c.size := by
    refine size_eq_of_get? ?_
    funext domain id
    exact c.get?_clone domain id
  -- an emptied domain is lost, but no message with it
  have hlisted : (c.clone.getAll? unlistedDomain).getD [] = (c.getAll? unlistedDomain).getD [] := by
    rw [getAll?_clone]
    cases c.getAll? unlistedDomain with
    | none => rfl
    | some ms => cases ms <;> rfl
  rw [hsize, ← hlisted, size_removeAll, hclone]

/-- Whatever was done to a catalogue, the one built from its record is for the same locale, has each
    of its messages and lists them in the same order, but for those of one domain, of which it has
    nothing.  It has no domain without messages, and the messages of the one domain are what its
    size is short of. -/
theorem rebuilt_spec (c : Catalogue) :
    c.rebuilt.locale = c.locale ∧
    (∀ domain id, c.rebuilt.get? domain id
      = if domain = "__proto__" then none else c.get? domain id) ∧
    (∀ domain, c.rebuilt.getAll? domain
      = if domain = "__proto__" then none else (c.getAll? domain).filter (· ≠ [])) ∧
    (∀ domain, domain ∈ c.rebuilt.domains ↔
      domain ≠ "__proto__" ∧ ∃ id template, c.get? domain id = some template) ∧
    c.rebuilt.size + ((c.getAll? "__proto__").getD []).length = c.size := by
  refine ⟨locale_insertListing _ _, c.get?_rebuilt, c.getAll?_rebuilt, fun domain => ?_,
    c.size_rebuilt⟩
  simp only [mem_domains_rebuilt, get?_rebuilt]
  show _ ↔ domain ≠ unlistedDomain ∧ _
  by_cases hdomain : domain = unlistedDomain <;> simp [hdomain]

/-- The one domain is lost and its name is kept as an id; the emptied domain is not there again. -/
example :
    let p := (Script.start default [("__proto__", [("a", "A")]), ("2", [("a", "A")]),
      ("m", [("b", "B"), ("10", "C"), ("__proto__", "D"), ("9", "E")])]).remove "2" "a"
    p.catalogue.rebuilt.getAll? "m"
        = some [("9", "E"), ("10", "C"), ("b", "B"), ("__proto__", "D")] ∧
      p.catalogue.rebuilt.domains = ["m"] ∧ p.catalogue.domains = ["2", "__proto__", "m"] := by
  cbv

end Catalogue

end Phrasebook

import Mathlib.Data.Set.Card
import Phrasebook.Proofs.Catalogue.Merge

namespace Phrasebook

/-!
# Catalogues as finite maps

Whatever is done to a catalogue, what it answers is what a finite map from pairs of a domain and an
id to templates answers.

* `MessageMap`: such a map, with the changes that a program can make to it.
* `Catalogue.Script`: what was done to a catalogue from its construction on; `Script.catalogue` is
  the catalogue, and `Script.map` the map.
* `Catalogue.get?_catalogue`: one change to the catalogue is one change to the map.
* `Catalogue.Represents`, `Catalogue.represents_get?`: all answers of a catalogue, from what it has
  under each domain and id.
* `Catalogue.represents_map`: every catalogue represents the map of its script.
-/

/-! ### Maps -/

/-- The template under each domain and id. -/
abbrev MessageMap := String → String → Option String

namespace MessageMap

/-- The map of a record of domains, in which the last of several members with one name counts. -/
def ofRecord (domains : List (String × List (String × String))) : MessageMap :=
  fun domain id =>
    (lookupEntry domain domains.reverse).bind fun ms => lookupEntry id ms.reverse

/-- One key put in. -/
def insert (m : MessageMap) (domain id template : String) : MessageMap :=
  fun domain' id' => if domain' = domain ∧ id' = id then some template else m domain' id'

/-- One key taken away. -/
def remove (m : MessageMap) (domain id : String) : MessageMap :=
  fun domain' id' => if domain' = domain ∧ id' = id then none else m domain' id'

/-- All keys of a domain taken away. -/
def removeAll (m : MessageMap) (domain : String) : MessageMap :=
  fun domain' id => if domain' = domain then none else m domain' id

/-- The keys of two maps; the second one wins. -/
def union (m other : MessageMap) : MessageMap :=
  fun domain id => (other domain id).or (m domain id)

/-- The pairs of a domain and an id that have a template. -/
def keys (m : MessageMap) : Set (String × String) :=
  {k | (m k.1 k.2).isSome = true}

end MessageMap

/-- A list of messages gives every id of a domain once, with its template, and nothing else. -/
structure Tabulates (ms : List (String × String)) (templates : String → Option String) : Prop where
  nodup : (ms.map Prod.fst).Nodup
  mem_iff : ∀ id template, (id, template) ∈ ms ↔ templates id = some template

namespace Catalogue

/-! ### What was done to a catalogue -/

/-- What was done to a catalogue, from its construction on.  A catalogue that is merged in has a
    script of its own, for any locale; `merge p p` is a catalogue merged into itself. -/
inductive Script
  | start (l : Locale) (domains : List (String × List (String × String)))
  | insert (p : Script) (domain id template : String)
  | remove (p : Script) (domain id : String)
  | removeAll (p : Script) (domain : String)
  | merge (p other : Script)

/-- The catalogue after a script. -/
def Script.catalogue : Script → Catalogue
  | start l domains => ofMessages l domains
  | insert p domain id template => (p.catalogue.put domain id template).2
  | remove p domain id => (p.catalogue.take domain id).2
  | removeAll p domain => (p.catalogue.takeAll domain).2
  | merge p other => p.catalogue.merge other.catalogue

/-- The map after a script. -/
def Script.map : Script → MessageMap
  | start _ domains => .ofRecord domains
  | insert p domain id template => p.map.insert domain id template
  | remove p domain id => p.map.remove domain id
  | removeAll p domain => p.map.removeAll domain
  | merge p other => p.map.union other.map

/-- The catalogue of a record has what the record has. -/
theorem get?_ofMessages (l : Locale) (domains : List (String × List (String × String)))
    (domain id : String) :
    (ofMessages l domains).get? domain id = MessageMap.ofRecord domains domain id := by
  have hdomains : (((Members.ofList domains).map fun d => (d.1, Members.ofList d.2)).map
      Prod.fst).Nodup := by
    rw [List.map_map]
    exact nodup_ofList domains
  have hids : ∀ d ∈ (Members.ofList domains).map fun d => (d.1, Members.ofList d.2),
      (d.2.map Prod.fst).Nodup := by
    intro d hd
    obtain ⟨e, -, rfl⟩ := List.mem_map.1 hd
    exact nodup_ofList e.2
  -- the last of several members with one name counts, among the domains and then among the ids
  rw [ofMessages, get?_insertListing _ hdomains hids, get?_new, Option.or_none, lookupEntry_map,
    (Members.lists_ofList domains).values, MessageMap.ofRecord]
  cases lookupEntry domain domains.reverse with
  | none => rfl
  | some ms => exact (Members.lists_ofList ms).values id

/-- Every change to a catalogue is that change to its map. -/
theorem get?_catalogue (p : Script) (domain id : String) :
    p.catalogue.get? domain id = p.map domain id := by
  induction p generalizing domain id with
  | start l domains => exact get?_ofMessages l domains domain id
  | insert p d i template ih =>
    rw [Script.map, MessageMap.insert, ← ih]
    exact get?_insert p.catalogue d i template domain id
  | remove p d i ih =>
    rw [Script.map, MessageMap.remove, ← ih]
    exact get?_remove p.catalogue d i domain id
  | removeAll p d ih =>
    rw [Script.map, MessageMap.removeAll, ← ih]
    exact get?_removeAll p.catalogue d domain id
  | merge p other ih ihOther =>
    rw [Script.map, MessageMap.union, ← ih, ← ihOther]
    exact get?_merge p.catalogue other.catalogue domain id

/-! ### The keys of a catalogue -/

/-- The pairs of a domain and an id that have a template. -/
def keys (c : Catalogue) : List (String × String) :=
  c.messages.entries.flatMap fun e => e.2.keys.map fun id => (e.1, id)

/-- The keys are the pairs that have a template. -/
theorem mem_keys (c : Catalogue) (domain id : String) :
    (domain, id) ∈ c.keys ↔ (c.get? domain id).isSome = true := by
  rw [keys, List.mem_flatMap]
  constructor
  · rintro ⟨e, he, hid⟩
    obtain ⟨i, hi, heq⟩ := List.mem_map.1 hid
    obtain ⟨rfl, rfl⟩ := Prod.mk.inj heq
    have hdomain : c.messages.get? e.1 = some e.2 := (Dict.get?_eq_some_iff _ _ _).2 he
    rw [get?, hdomain]
    exact (Dict.contains_iff e.2 i).2 hi
  · intro h
    cases hdomain : c.messages.get? domain with
    | none => exact absurd h (by simp [get?, hdomain])
    | some ms =>
      rw [get?, hdomain] at h
      exact ⟨(domain, ms), (Dict.get?_eq_some_iff _ _ _).1 hdomain,
        List.mem_map_of_mem ((Dict.contains_iff ms id).1 h)⟩

/-- No key is there twice. -/
theorem nodup_keys (c : Catalogue) : c.keys.Nodup := by
  have hapart : c.messages.entries.Pairwise fun e f => e.1 ≠ f.1 :=
    List.pairwise_map.1 c.messages.nodup
  refine List.nodup_flatMap.2 ⟨fun e _ => ?_, hapart.imp fun {e f} hne => ?_⟩
  · exact e.2.nodup.map fun _ _ heq => (Prod.mk.inj heq).2
  · -- keys of different domains are different
    intro k hk hk'
    obtain ⟨i, -, rfl⟩ := List.mem_map.1 hk
    obtain ⟨j, -, heq⟩ := List.mem_map.1 hk'
    exact hne (Prod.mk.inj heq).1.symm

/-- There are as many keys as the size says. -/
theorem length_keys (c : Catalogue) : c.keys.length = c.size := by
  -- both are the sum of the numbers of messages of the domains
  rw [keys, List.length_flatMap, size, ← List.foldl_map, ← List.sum_eq_foldl_nat, Dict.values,
    List.map_map]
  refine congrArg List.sum (List.map_congr_left fun e _ => ?_)
  rw [List.length_map, Dict.keys, List.length_map]
  rfl

/-! ### What a catalogue answers -/

/-- All that a catalogue answers, and all that its changes answer, is what a map says. -/
structure Represents (c : Catalogue) (m : MessageMap) : Prop where
  get : ∀ domain id, c.get? domain id = m domain id
  has : ∀ domain id, c.has domain id = true ↔ ∃ template, c.get? domain id = some template
  put : ∀ domain id template, (c.put domain id template).1 = c.get? domain id
  take : ∀ domain id, (c.take domain id).1 = c.get? domain id
  takeAll : ∀ domain, Tabulates ((c.takeAll domain).1.getD []) (c.get? domain)
  size : m.keys.encard = c.size
  ascending : c.domains.Pairwise fun a b => Text.units a.toList < Text.units b.toList
  domains : ∀ domain id, (m domain id).isSome = true → domain ∈ c.domains
  getAll : ∀ domain, Tabulates ((c.getAll? domain).getD []) (m domain)

/-- A message is there just where it has a template. -/
theorem has_iff (c : Catalogue) (domain id : String) :
    c.has domain id = true ↔ ∃ template, c.get? domain id = some template := by
  rw [has, ← Option.isSome_iff_exists, get?]
  cases c.messages.get? domain <;> rfl

/-- Putting a message in answers with the template that was there. -/
theorem put_fst (c : Catalogue) (domain id template : String) :
    (c.put domain id template).1 = c.get? domain id := by
  rw [put, get?]
  cases c.messages.get? domain <;> rfl

/-- What a domain lists is what the catalogue has under it. -/
theorem tabulates_getAll? (c : Catalogue) (domain : String) :
    Tabulates ((c.getAll? domain).getD []) (c.get? domain) := by
  cases hall : c.getAll? domain with
  | none =>
    refine ⟨List.nodup_nil, fun id template => ?_⟩
    rw [← getAll?_bind_lookupEntry, hall]
    simp
  | some ms =>
    have hnodup := nodup_of_getAll? hall
    refine ⟨hnodup, fun id template => ?_⟩
    rw [← getAll?_bind_lookupEntry, hall]
    exact (lookupEntry_eq_some_iff hnodup id template).symm

/-- A domain with a message is listed. -/
theorem mem_domains {c : Catalogue} {domain id : String}
    (h : (c.get? domain id).isSome = true) : domain ∈ c.domains := by
  refine Text.mem_sortNames.2 ((Dict.contains_iff _ _).1 ?_)
  cases hdomain : c.messages.get? domain with
  | none => exact absurd h (by simp [get?, hdomain])
  | some ms => rw [Dict.contains, hdomain]; rfl

/-- The size is the number of pairs that have a template. -/
theorem encard_keys (c : Catalogue) : (MessageMap.keys c.get?).encard = c.size := by
  have hkeys : MessageMap.keys c.get? = (c.keys.toFinset : Set (String × String)) := by
    ext ⟨domain, id⟩
    rw [List.coe_toFinset]
    exact (c.mem_keys domain id).symm
  rw [hkeys, Set.encard_coe_eq_coe_finsetCard, List.toFinset_card_of_nodup c.nodup_keys,
    length_keys]

/-- What a catalogue has under each domain and id decides all that it answers. -/
theorem represents_get? (c : Catalogue) : c.Represents c.get? where
  get _ _ := rfl
  has := c.has_iff
  put := c.put_fst
  take _ _ := rfl
  takeAll := c.tabulates_getAll?
  size := c.encard_keys
  ascending := Text.pairwise_lt_sortNames c.messages.nodup
  domains _ _ h := mem_domains h
  getAll := c.tabulates_getAll?

/-- Whatever was done to a catalogue, all that it answers, and all that the next change answers, is
    what the map of its script says. -/
theorem represents_map (p : Script) : p.catalogue.Represents p.map := by
  have hmap : p.catalogue.get? = p.map := by
    funext domain id
    exact get?_catalogue p domain id
  rw [← hmap]
  exact represents_get? p.catalogue

/-- A domain and ids with names that a record treats in a way of its own, merged into itself. -/
example :
    let p := Script.start default [("__proto__", [("b", "1"), ("10", "2"), ("9", "3")])]
    let c := ((p.merge p).remove "__proto__" "10").catalogue
    c.getAll? "__proto__" = some [("9", "3"), ("b", "1")] ∧ c.size = 2 := by
  cbv

end Catalogue

end Phrasebook

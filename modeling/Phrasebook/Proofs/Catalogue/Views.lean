import Mathlib.Algebra.GroupWithZero.Nat
import Phrasebook.Proofs.Catalogue.Merge
import Phrasebook.Proofs.Locale

namespace Phrasebook

/-!
# What is to be seen of catalogues and bags

Dictionaries keep more of the order in which messages came in than a catalogue lists.  Two bags may
differ in that and still answer everything alike.

* `Catalogue.view`, `Bag.view`: all that a catalogue and a bag answer, as one value.
* `Catalogue.view_eq_iff`, `Bag.view_eq`: the messages listed under each domain decide it.
* `putMessages`, `listed`: messages put under a domain, and the messages of a domain as they are
  listed; `listed_putMessages` and `map_putMessages_ofList` relate the two.
* `Catalogue.messages_merge`, `Bag.messages?_insertList`, `Bag.messages?_append`: the messages
  under a domain after catalogues were put in; `Bag.template?_append`: which template wins.
* `Bag.exists_mem_domains_iff`: a bag of catalogues has no domain without messages.
-/

/-! ### Messages put under a domain -/

/-- The messages of a domain after more were put in; a domain comes into being with its first
    message. -/
def putMessages (ms : Option Messages) (es : List (String × String)) : Option Messages :=
  if es = [] then ms else some ((ms.getD Dict.empty).insertList es)

/-- The messages of a domain as they are listed; what is not there lists nothing. -/
def listed (ms : Option Messages) : List (String × String) :=
  (ms.map fun ms => arrange ms.entries).getD []

@[simp] theorem putMessages_nil (ms : Option Messages) : putMessages ms [] = ms := rfl

theorem putMessages_cons (ms : Option Messages) (e : String × String)
    (es : List (String × String)) :
    putMessages ms (e :: es) = some ((ms.getD Dict.empty).insertList (e :: es)) :=
  if_neg (by simp)

/-- Messages may be put in one part after the other. -/
theorem putMessages_append (ms : Option Messages) (es fs : List (String × String)) :
    putMessages ms (es ++ fs) = putMessages (putMessages ms es) fs := by
  -- a domain without messages comes into being only where there is one to put in
  cases es with
  | nil => rfl
  | cons e es =>
    cases fs with
    | nil => rw [List.append_nil, putMessages_nil]
    | cons f fs =>
      rw [List.cons_append, putMessages_cons, putMessages_cons, putMessages_cons,
        ← List.cons_append, Dict.insertList_append]
      rfl

/-- A domain comes into being with its first message. -/
theorem isSome_putMessages (ms : Option Messages) (es : List (String × String)) :
    (putMessages ms es).isSome = true ↔
      ms.isSome = true ∨ ∃ id t, lookupEntry id es.reverse = some t := by
  cases es with
  | nil => simp [lookupEntry]
  | cons e es =>
    refine iff_of_true (by rw [putMessages_cons]; rfl) (Or.inr ⟨e.1, ?_⟩)
    exact Option.isSome_iff_exists.1 ((lookupEntry_isSome e.1 _).2 (by simp))

/-- Messages may be put in as a record lists them. -/
theorem map_putMessages_ofList (ms : Option Messages) (es : List (String × String)) :
    ((putMessages ms (Members.ofList es)).map fun m => arrange m.entries)
      = (putMessages ms es).map fun m => arrange m.entries := by
  by_cases hes : es = []
  · rw [hes, (Members.ofList_eq_nil_iff []).2 rfl]
  · have hlist : Members.ofList es ≠ [] := mt (Members.ofList_eq_nil_iff es).1 hes
    rw [putMessages, putMessages, if_neg hlist, if_neg hes, Option.map_some, Option.map_some,
      arrange_insertList_ofList]

/-- What is listed after messages were put in is the record of what was listed and of them. -/
theorem listed_putMessages (ms : Option Messages) (es : List (String × String)) :
    listed (putMessages ms es) = Members.ofList (listed ms ++ es) := by
  cases ms with
  | none =>
    cases es with
    | nil => exact ((Members.ofList_eq_nil_iff []).2 rfl).symm
    | cons e es => rfl
  | some m =>
    have hput : listed (putMessages (some m) es) = arrange (m.insertList es).entries := by
      cases es with
      | nil => rfl
      | cons e es => rfl
    have hrecord : Members.ofList (arrange m.entries ++ es)
        = arrange ((Dict.ofList (arrange m.entries)).insertList es).entries := by
      rw [Members.ofList, Dict.ofList, Dict.insertList_append]
      rfl
    -- the dictionary and its record differ only in an order that a record does not show
    show listed (putMessages (some m) es) = Members.ofList (arrange m.entries ++ es)
    rw [hput, hrecord]
    exact arrange_insertList_congr (arrange_ofList_arrange m).symm es

/-- Of messages that are put under a domain, the last one of an id counts. -/
theorem get?_putMessages (ms : Option Messages) (es : List (String × String)) (id : String) :
    ((putMessages ms es).bind fun m => m.get? id)
      = (lookupEntry id es.reverse).or (ms.bind fun m => m.get? id) := by
  cases es with
  | nil => rfl
  | cons e es =>
    rw [putMessages_cons, Option.bind_some, Dict.get?_insertList]
    cases ms <;> rfl

/-- What a domain lists under an id is the template there. -/
theorem lookupEntry_listed (ms : Option Messages) (id : String) :
    lookupEntry id (listed ms).reverse = ms.bind fun m => m.get? id := by
  cases ms with
  | none => rfl
  | some m =>
    exact lookupEntry_perm ((List.reverse_perm _).trans (arrange_perm m.entries)) m.nodup id

/-! ### Catalogues -/

namespace Catalogue

/-- A domain lists its messages as a record does. -/
theorem getAll?_eq_map (c : Catalogue) (domain : String) :
    c.getAll? domain = (c.messages.get? domain).map fun m => arrange m.entries := rfl

/-- The messages of each domain after one is put in. -/
theorem messages_insert (c : Catalogue) (domain id template domain' : String) :
    (c.insert domain id template).messages.get? domain'
      = if domain' = domain then putMessages (c.messages.get? domain) [(id, template)]
        else c.messages.get? domain' :=
  Dict.get?_insert c.messages domain domain' _

/-- The messages of each domain after one is taken away. -/
theorem messages_remove (c : Catalogue) (domain id domain' : String) :
    (c.remove domain id).messages.get? domain'
      = if domain' = domain then (c.messages.get? domain).map fun m => m.erase id
        else c.messages.get? domain' := by
  unfold remove
  cases h : c.messages.get? domain with
  | none =>
    by_cases hd : domain' = domain
    · rw [if_pos hd, hd, h]
      rfl
    · rw [if_neg hd]
  | some m => exact Dict.get?_insert c.messages domain domain' (m.erase id)

/-- The messages of each domain after a domain is taken away. -/
theorem messages_removeAll (c : Catalogue) (domain domain' : String) :
    (c.removeAll domain).messages.get? domain'
      = if domain' = domain then none else c.messages.get? domain' :=
  Dict.get?_erase c.messages domain domain'

/-- The messages of each domain after some are put under one. -/
theorem messages_insertAll (c : Catalogue) (domain : String) (ms : List (String × String))
    (domain' : String) :
    (c.insertAll domain ms).messages.get? domain'
      = putMessages (c.messages.get? domain') (if domain' = domain then ms else []) := by
  induction ms generalizing c with
  | nil =>
    rw [ite_self]
    rfl
  | cons m ms ih =>
    have hstep : c.insertAll domain (m :: ms) = (c.insert domain m.1 m.2).insertAll domain ms := rfl
    rw [hstep, ih, messages_insert]
    by_cases h : domain' = domain
    · subst h
      rw [if_pos rfl, if_pos rfl, if_pos rfl, ← putMessages_append]
      rfl
    · rw [if_neg h, if_neg h, if_neg h]

/-- The messages of each domain after some are put under several. -/
theorem messages_insertListing (c : Catalogue) {listing : List (String × List (String × String))}
    (h : (listing.map Prod.fst).Nodup) (domain : String) :
    (c.insertListing listing).messages.get? domain
      = putMessages (c.messages.get? domain) ((lookupEntry domain listing).getD []) := by
  induction listing generalizing c with
  | nil => rfl
  | cons d ds ih =>
    obtain ⟨hhead, htail⟩ := List.nodup_cons.1 h
    have hstep : c.insertListing (d :: ds) = (c.insertAll d.1 d.2).insertListing ds := rfl
    rw [hstep, ih _ htail, messages_insertAll, lookupEntry]
    by_cases hd : d.1 = domain
    · -- the domain does not come again
      have hnone : lookupEntry domain ds = none := lookupEntry_of_not_mem (hd ▸ hhead)
      rw [if_pos hd, if_pos hd.symm, hnone]
      rfl
    · rw [if_neg hd, if_neg (Ne.symm hd)]
      rfl

/-- The messages of a domain in the catalogue of a record. -/
theorem messages_ofMessages (l : Locale) (domains : List (String × List (String × String)))
    (domain : String) :
    (ofMessages l domains).messages.get? domain
      = putMessages none (((lookupEntry domain domains.reverse).map Members.ofList).getD []) := by
  have hlisted : (((Members.ofList domains).map fun e => (e.1, Members.ofList e.2)).map
      Prod.fst).Nodup := by
    rw [List.map_map]
    exact nodup_ofList domains
  rw [ofMessages, messages_insertListing _ hlisted, lookupEntry_map,
    (Members.lists_ofList domains).values]
  rfl

/-- The messages of a domain after a merge. -/
theorem messages_merge (c other : Catalogue) (domain : String) :
    (c.merge other).messages.get? domain
      = putMessages (c.messages.get? domain) (listed (other.messages.get? domain)) := by
  rw [merge, messages_insertListing c other.nodup_listing, lookupEntry_listing]
  rfl

/-! ### All that a catalogue answers -/

/-- All that a catalogue answers. -/
structure View where
  domains : List String
  messages : String → Option (List (String × String))
  size : Nat
  record : List (String × List (String × String))

/-- All that this catalogue answers. -/
def view (c : Catalogue) : View :=
  ⟨c.domains, c.getAll?, c.size, c.toRecord⟩

/-- The size counts what each domain lists. -/
theorem size_eq_sum (c : Catalogue) :
    c.size = (c.messages.keys.map fun d => ((c.getAll? d).getD []).length).sum := by
  have hsizes : c.messages.keys.map (fun d => ((c.getAll? d).getD []).length)
      = c.messages.values.map Dict.size := by
    rw [Dict.keys, Dict.values, List.map_map, List.map_map]
    refine List.map_congr_left fun e he => ?_
    have hget : c.messages.get? e.1 = some e.2 := (Dict.get?_eq_some_iff _ _ _).2 he
    show ((c.getAll? e.1).getD []).length = e.2.entries.length
    rw [getAll?, hget]
    exact (arrange_perm e.2.entries).length_eq
  rw [hsizes, List.sum_eq_foldl_nat, List.foldl_map]
  rfl

/-- A domain is there just where it lists messages, though there may be none. -/
theorem mem_keys_messages (c : Catalogue) (domain : String) :
    domain ∈ c.messages.keys ↔ (c.getAll? domain).isSome = true := by
  rw [← Dict.contains_iff, Dict.contains, getAll?, Option.isSome_map]

/-- The messages that are listed under each domain decide all that a catalogue answers. -/
theorem view_eq_iff {c c' : Catalogue} :
    c.view = c'.view ↔ ∀ domain, c.getAll? domain = c'.getAll? domain := by
  refine ⟨fun h => congrFun (congrArg View.messages h), fun h => ?_⟩
  have hgetAll : c.getAll? = c'.getAll? := funext h
  -- a domain without messages is listed, too, so the domains are the same
  have hperm : c.messages.keys.Perm c'.messages.keys := by
    refine (List.perm_ext_iff_of_nodup c.messages.nodup c'.messages.nodup).2 fun domain => ?_
    show domain ∈ c.messages.keys ↔ domain ∈ c'.messages.keys
    rw [mem_keys_messages, mem_keys_messages, h]
  have hdomains : c.domains = c'.domains := Text.sortNames_congr hperm
  have hsize : c.size = c'.size := by
    rw [size_eq_sum, size_eq_sum, hgetAll]
    exact (hperm.map _).sum_nat
  have hrecord : c.toRecord = c'.toRecord := by
    rw [toRecord, toRecord, listing, listing, hdomains, hgetAll]
  rw [view, view, hdomains, hgetAll, hsize, hrecord]

/-- A catalogue that was just merged in, or one that answers the same, changes nothing to be seen
    when it is merged in again. -/
theorem view_merge_merge (c : Catalogue) {other other' : Catalogue}
    (h : other'.view = other.view) :
    ((c.merge other).merge other').view = (c.merge other).view := by
  refine view_eq_iff.2 fun domain => ?_
  have hlisted : listed (other'.messages.get? domain) = listed (other.messages.get? domain) :=
    congrArg (·.getD []) (view_eq_iff.1 h domain)
  have htwice : ∀ (ms : Option Messages) (es : List (String × String)),
      putMessages (putMessages ms es) es = putMessages ms es := by
    intro ms es
    cases es with
    | nil => rfl
    | cons e es =>
      rw [putMessages_cons, putMessages_cons, Option.getD_some, Dict.insertList_insertList]
  rw [getAll?_eq_map, getAll?_eq_map, messages_merge, messages_merge, hlisted, htwice]

/-- It does not matter in which order three catalogues are merged. -/
theorem view_merge_assoc (a b c : Catalogue) :
    ((a.merge b).merge c).view = (a.merge (b.merge c)).view := by
  refine view_eq_iff.2 fun domain => ?_
  rw [getAll?_eq_map, getAll?_eq_map, messages_merge, messages_merge, messages_merge,
    messages_merge, listed_putMessages, map_putMessages_ofList, putMessages_append]

/-- A catalogue merged into itself. -/
theorem view_merge_self (c : Catalogue) : (c.merge c).view = c.view := by
  refine view_eq_iff.2 fun domain => ?_
  rw [getAll?_eq_map, getAll?_eq_map, messages_merge]
  cases c.messages.get? domain with
  | none => rfl
  | some m =>
    have hsame : m.insertList (arrange m.entries) = m := by
      refine Dict.insertList_of_get? fun e he => ?_
      exact (Dict.get?_eq_some_iff m e.1 e.2).2 ((arrange_perm m.entries).mem_iff.1 he)
    show (putMessages (some m) (arrange m.entries)).map _ = _
    cases hlist : arrange m.entries with
    | nil => rfl
    | cons e es => rw [putMessages_cons, ← hlist, Option.getD_some, hsame]

end Catalogue

/-! ### Bags -/

namespace Bag

/-- The messages of a locale and a domain. -/
def messages? (b : Bag) (l : Locale) (domain : String) : Option Messages :=
  (b.get? l).bind fun c => c.messages.get? domain

/-- The messages of a locale and a domain, as the bag lists them. -/
def getAll? (b : Bag) (l : Locale) (domain : String) : Option (List (String × String)) :=
  (b.get? l).bind fun c => c.getAll? domain

/-- A bag lists the messages of a locale and a domain as a record does. -/
theorem getAll?_eq_map (b : Bag) (l : Locale) (domain : String) :
    b.getAll? l domain = (b.messages? l domain).map fun m => arrange m.entries := by
  rw [getAll?, messages?, Option.map_bind]
  rfl

/-- What catalogues list for a locale and a domain, one after another. -/
def listedIn (cs : List Catalogue) (l : Locale) (domain : String) : List (String × String) :=
  cs.flatMap fun c => if c.locale = l then (c.getAll? domain).getD [] else []

/-- The messages of a locale and a domain after a catalogue is put in. -/
theorem messages?_insert (b : Bag) (c : Catalogue) (l : Locale) (domain : String) :
    (b.insert c).messages? l domain
      = putMessages (b.messages? l domain)
          (if c.locale = l then (c.getAll? domain).getD [] else []) := by
  rw [messages?, get?, insert, Dict.get?_insert]
  by_cases h : c.locale = l
  · subst h
    rw [if_pos rfl, if_pos rfl, Option.bind_some, Catalogue.messages_merge]
    show putMessages _ (listed (c.messages.get? domain)) = _
    congr 1
    rw [messages?]
    cases b.get? c.locale <;> rfl
  · rw [if_neg (Ne.symm h), if_neg h]
    rfl

/-- The messages of a locale and a domain after catalogues were put in. -/
theorem messages?_insertList (b : Bag) (cs : List Catalogue) (l : Locale) (domain : String) :
    (b.insertList cs).messages? l domain
      = putMessages (b.messages? l domain) (listedIn cs l domain) := by
  induction cs generalizing b with
  | nil => rfl
  | cons c cs ih =>
    have hstep : b.insertList (c :: cs) = (b.insert c).insertList cs := rfl
    rw [hstep, ih, messages?_insert, ← putMessages_append]
    rfl

/-- A bag with its catalogues for their own locales lists what they list. -/
theorem listedIn_values {b : Bag} (h : b.Keyed) (l : Locale) (domain : String) :
    listedIn b.catalogues.values l domain = listed (b.messages? l domain) := by
  have hentries : ∀ es : List (Locale × Catalogue), (es.map Prod.fst).Nodup →
      (∀ e ∈ es, e.2.locale = e.1) → listedIn (es.map Prod.snd) l domain
        = ((lookupEntry l es).bind fun c => c.getAll? domain).getD [] := by
    intro es hnodup hlocales
    induction es with
    | nil => rfl
    | cons e es ih =>
      obtain ⟨hhead, htail⟩ := List.nodup_cons.1 hnodup
      have hrest := ih htail fun f hf => hlocales f (List.mem_cons_of_mem e hf)
      show (if e.2.locale = l then _ else _) ++ listedIn (es.map Prod.snd) l domain = _
      rw [hrest, lookupEntry, hlocales e List.mem_cons_self]
      by_cases hl : e.1 = l
      · -- the locale does not come again
        have hnone : lookupEntry l es = none := lookupEntry_of_not_mem (hl ▸ hhead)
        rw [if_pos hl, if_pos hl, hnone, Option.bind_some]
        exact List.append_nil _
      · rw [if_neg hl, if_neg hl]
        rfl
  have hlocales : ∀ e ∈ b.catalogues.entries, e.2.locale = e.1 :=
    fun e he => h e.1 e.2 ((Dict.get?_eq_some_iff _ _ _).2 he)
  refine (hentries b.catalogues.entries b.catalogues.nodup hlocales).trans ?_
  exact congrArg (·.getD []) (b.getAll?_eq_map l domain)

/-- The messages of a locale and a domain after another bag was put in. -/
theorem messages?_append (a : Bag) {b : Bag} (h : b.Keyed) (l : Locale) (domain : String) :
    (a.append b).messages? l domain
      = putMessages (a.messages? l domain) (listed (b.messages? l domain)) := by
  rw [append, messages?_insertList, listedIn_values h]

/-- The template of a bag is among the messages of its locale and domain. -/
theorem template?_eq_bind (b : Bag) (l : Locale) (domain id : String) :
    b.template? l domain id = (b.messages? l domain).bind fun m => m.get? id := by
  rw [template?, messages?, Option.bind_assoc]
  rfl

/-- The templates of a bag that is put in win over those that are there. -/
theorem template?_append (a : Bag) {b : Bag} (h : b.Keyed) (l : Locale) (domain id : String) :
    (a.append b).template? l domain id
      = (b.template? l domain id).or (a.template? l domain id) := by
  rw [template?_eq_bind, template?_eq_bind, template?_eq_bind, messages?_append a h,
    get?_putMessages, lookupEntry_listed]

/-- A bag has the locales that it had and those of the bag put in. -/
theorem has_append (a : Bag) {b : Bag} (h : b.Keyed) (l : Locale) :
    (a.append b).has l = (a.has l || b.has l) := by
  have hvalues : (∃ c ∈ b.catalogues.values, c.locale = l) ↔ b.has l = true := by
    rw [has, Dict.contains_iff, ← h.map_locale_values, List.mem_map]
  rw [Bool.eq_iff_iff, append, has_insertList, hvalues, Bool.or_eq_true, or_comm]

/-- All that a bag answers. -/
structure View where
  locales : List Locale
  catalogues : Locale → Option Catalogue.View

/-- All that this bag answers. -/
def view (b : Bag) : View :=
  ⟨b.locales, fun l => (b.get? l).map Catalogue.view⟩

/-- The locales of a bag and the messages that are listed under each domain decide all that it
    answers. -/
theorem view_eq {a b : Bag} (hhas : ∀ l, a.has l = b.has l)
    (hgetAll : ∀ l domain, a.getAll? l domain = b.getAll? l domain) : a.view = b.view := by
  have hperm : a.catalogues.keys.Perm b.catalogues.keys := by
    refine (List.perm_ext_iff_of_nodup a.catalogues.nodup b.catalogues.nodup).2 fun l => ?_
    show l ∈ a.catalogues.keys ↔ l ∈ b.catalogues.keys
    rw [← Dict.contains_iff, ← Dict.contains_iff]
    exact Bool.eq_iff_iff.1 (hhas l)
  have hlocales : a.locales = b.locales := Locale.sort_congr hperm
  have hcatalogues : ∀ l, (a.get? l).map Catalogue.view = (b.get? l).map Catalogue.view := by
    intro l
    have hsome : (a.get? l).isSome = (b.get? l).isSome := hhas l
    cases ha : a.get? l with
    | none =>
      rw [ha] at hsome
      have hb : b.get? l = none := Option.not_isSome_iff_eq_none.1 (by rw [← hsome]; simp)
      rw [hb]
    | some c =>
      rw [ha] at hsome
      obtain ⟨c', hc'⟩ := Option.isSome_iff_exists.1 hsome.symm
      rw [hc', Option.map_some, Option.map_some, Option.some.injEq]
      refine Catalogue.view_eq_iff.2 fun domain => ?_
      have hlist := hgetAll l domain
      rwa [getAll?, getAll?, ha, hc'] at hlist
  rw [view, view, hlocales, funext hcatalogues]

/-- The messages of a locale and a domain in a bag of catalogues. -/
theorem messages?_ofList (cs : List Catalogue) (l : Locale) (domain : String) :
    (ofList cs).messages? l domain = putMessages none (listedIn cs l domain) :=
  messages?_insertList empty cs l domain

/-- What a bag of catalogues lists. -/
theorem getAll?_ofList (cs : List Catalogue) (l : Locale) (domain : String) :
    (ofList cs).getAll? l domain = if listedIn cs l domain = [] then none
      else some (Members.ofList (listedIn cs l domain)) := by
  rw [getAll?_eq_map, messages?_ofList, putMessages]
  split <;> rfl

/-- The locales of a bag are those that it has. -/
theorem mem_locales (b : Bag) (l : Locale) : l ∈ b.locales ↔ b.has l = true := by
  rw [locales, Locale.sort, List.mem_mergeSort, has, Dict.contains_iff]

/-- No locale is there twice. -/
theorem nodup_locales (b : Bag) : b.locales.Nodup :=
  (List.mergeSort_perm b.catalogues.keys Locale.before).nodup_iff.2 b.catalogues.nodup

/-- In a bag of catalogues, each domain has a message. -/
theorem exists_mem_domains_iff (cs : List Catalogue) (l : Locale) (domain : String) :
    (∃ c, (ofList cs).get? l = some c ∧ domain ∈ c.domains) ↔
      ∃ id t, (ofList cs).template? l domain id = some t := by
  have hdomains : (∃ c, (ofList cs).get? l = some c ∧ domain ∈ c.domains) ↔
      ((ofList cs).messages? l domain).isSome = true := by
    simp only [Catalogue.domains, Text.mem_sortNames, ← Dict.contains_iff, Dict.contains, messages?]
    cases (ofList cs).get? l <;> simp
  rw [hdomains, messages?_ofList, isSome_putMessages]
  simp only [template?_eq_bind, messages?_ofList, get?_putMessages, Option.bind_none,
    Option.or_none, Option.isSome_none, Bool.false_eq_true, false_or]

/-- Bags put together are what one bag of all their catalogues is. -/
theorem view_append_ofList (xs ys : List Catalogue) :
    ((ofList xs).append (ofList ys)).view = (ofList (xs ++ ys)).view := by
  refine view_eq (fun l => ?_) fun l domain => ?_
  · rw [has_append _ (keyed_ofList ys), Bool.eq_iff_iff, Bool.or_eq_true, ofList, ofList, ofList,
      has_insertList, has_insertList, has_insertList]
    have hempty : empty.has l = false := rfl
    simp only [hempty, Bool.false_eq_true, or_false, List.mem_append, or_and_right, exists_or]
  · have hlisted : listed (putMessages none (listedIn ys l domain))
        = Members.ofList (listedIn ys l domain) := listed_putMessages none _
    rw [getAll?_eq_map, getAll?_eq_map, messages?_append _ (keyed_ofList ys), messages?_ofList,
      messages?_ofList, messages?_ofList, hlisted, map_putMessages_ofList, listedIn, listedIn,
      listedIn, List.flatMap_append,
      putMessages_append]

/-- It does not matter in which order three bags are put together. -/
theorem view_append_assoc (a : Bag) {b c : Bag} (hb : b.Keyed) (hc : c.Keyed) :
    ((a.append b).append c).view = (a.append (b.append c)).view := by
  have hbc : (b.append c).Keyed := hb.insertList _
  refine view_eq (fun l => ?_) fun l domain => ?_
  · rw [has_append _ hc, has_append _ hb, has_append _ hbc, has_append _ hc, Bool.or_assoc]
  · rw [getAll?_eq_map, getAll?_eq_map, messages?_append _ hc, messages?_append _ hb,
      messages?_append _ hbc, messages?_append _ hc, listed_putMessages, map_putMessages_ofList,
      putMessages_append]

end Bag

end Phrasebook

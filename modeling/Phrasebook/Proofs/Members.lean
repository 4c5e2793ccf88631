import Phrasebook.Members
import Phrasebook.Proofs.Dict

namespace Phrasebook

/-!
# The order of a record

A record lists its indices first and its other names as they came in, so of the order in which
entries were put in only that of the other names is left to be seen.

* `arrange_perm`: the order of a record is an order of the same entries.
* `SameOrder`, `arrange_eq_iff`: dictionaries that a record lists in the same way.
* `Members.Lists`, `Members.lists_iff`: what a record of a list of entries lists, and nothing else.
* `arrange_insertList_congr`, `arrange_insertList_ofList`: entries put in after others, as they are
  or as a record lists them.
-/

open RecordName (index?)

variable {κ : Type} [RecordName κ] {α : Type u}

/-! ### The order of a record -/

/-- The order of a record is an order of the same entries. -/
theorem arrange_perm (es : List (κ × α)) : (arrange es).Perm es := by
  have hneg : (es.filter fun e => (index? e.1).isNone)
      = es.filter fun e => !(index? e.1).isSome :=
    List.filter_congr fun e _ => by simp
  rw [arrange, hneg]
  exact ((List.mergeSort_perm _ _).append_right _).trans (List.filter_append_perm _ es)

/-- Arranging repeats no name. -/
theorem nodup_arrange {es : List (κ × α)} (h : (es.map Prod.fst).Nodup) :
    ((arrange es).map Prod.fst).Nodup :=
  ((arrange_perm es).map Prod.fst).nodup_iff.2 h

/-! ### Indices -/

/-- Whether a name is no index. -/
def isPlain (name : κ) : Bool :=
  (index? name).isNone

theorem indexLe_trans (a b c : κ × α) (hab : indexLe a b = true) (hbc : indexLe b c = true) :
    indexLe a c = true :=
  decide_eq_true (Nat.le_trans (of_decide_eq_true hab) (of_decide_eq_true hbc))

theorem indexLe_total (a b : κ × α) : (indexLe a b || indexLe b a) = true := by
  rw [Bool.or_eq_true, indexLe, indexLe, decide_eq_true_eq, decide_eq_true_eq]
  exact Nat.le_total _ _

/-- Of two indices with distinct names one is smaller. -/
theorem lt_of_indexLe {a b : κ × α} (ha : (index? a.1).isSome = true)
    (hb : (index? b.1).isSome = true) (hle : indexLe a b = true) (hne : a.1 ≠ b.1) :
    (index? a.1).getD 0 < (index? b.1).getD 0 := by
  obtain ⟨n, hn⟩ := Option.isSome_iff_exists.1 ha
  obtain ⟨m, hm⟩ := Option.isSome_iff_exists.1 hb
  have hnm : n ≤ m := by
    have hle' := of_decide_eq_true hle
    rwa [hn, hm] at hle'
  have hdistinct : n ≠ m := fun heq => hne (RecordName.index?_inj hn (heq ▸ hm))
  rw [hn, hm]
  show n < m
  omega

/-- The indices of a record stand in ascending order. -/
theorem pairwise_indices {es : List (κ × α)} (h : (es.map Prod.fst).Nodup) :
    (((es.filter fun e => (index? e.1).isSome).mergeSort indexLe).map Prod.fst).Pairwise
      fun a b => (index? a).getD 0 < (index? b).getD 0 := by
  have hsorted := List.pairwise_mergeSort indexLe_trans indexLe_total
    (es.filter fun e => (index? e.1).isSome)
  have hnodup : (((es.filter fun e => (index? e.1).isSome).mergeSort indexLe).map
      Prod.fst).Nodup := by
    refine ((List.mergeSort_perm _ _).map Prod.fst).nodup_iff.2 (h.sublist ?_)
    exact List.filter_sublist.map Prod.fst
  have hmem : ∀ e ∈ (es.filter fun e => (index? e.1).isSome).mergeSort indexLe,
      (index? e.1).isSome = true :=
    fun e he => (List.mem_filter.1 (List.mem_mergeSort.1 he)).2
  refine List.pairwise_map.2 ?_
  refine (List.Pairwise.and_mem.1 (hsorted.and (List.pairwise_map.1 hnodup))).imp ?_
  rintro a b ⟨ha, hb, hle, hne⟩
  exact lt_of_indexLe (hmem a ha) (hmem b hb) hle hne

/-- Arranging leaves the names that are no indices in their order. -/
theorem filter_isPlain_arrange (es : List (κ × α)) :
    ((arrange es).map Prod.fst).filter isPlain = (es.map Prod.fst).filter isPlain := by
  have hindices : ((es.filter fun e => (index? e.1).isSome).mergeSort indexLe).filter
      (isPlain ∘ Prod.fst) = [] := by
    refine List.filter_eq_nil_iff.2 fun e he => ?_
    have hsome := (List.mem_filter.1 (List.mem_mergeSort.1 he)).2
    simpa [isPlain] using Option.isSome_iff_ne_none.1 hsome
  rw [List.filter_map, List.filter_map, arrange, List.filter_append, hindices, List.nil_append,
    List.filter_filter]
  exact congrArg _ (List.filter_congr fun e _ => Bool.and_self _)

/-- Ascending indices are different. -/
theorem nodup_of_ascending {indices : List κ}
    (h : indices.Pairwise fun a b => (index? a).getD 0 < (index? b).getD 0) : indices.Nodup := by
  refine h.imp fun hlt heq => ?_
  rw [heq] at hlt
  exact Nat.lt_irrefl _ hlt

/-! ### Dictionaries that a record lists in the same way -/

variable [DecidableEq κ]

/-- A record has no name twice. -/
theorem nodup_ofList (es : List (κ × α)) :
    ((Members.ofList es).map Prod.fst).Nodup :=
  nodup_arrange (Dict.ofList es).nodup

/-- Dictionaries with the same values whose plain names came in in the same order. -/
structure SameOrder (d d' : Dict κ α) : Prop where
  values : ∀ k, d.get? k = d'.get? k
  plain : d.keys.filter isPlain = d'.keys.filter isPlain

/-- Dictionaries in the same order have the same entries. -/
theorem SameOrder.perm {d d' : Dict κ α} (h : SameOrder d d') :
    d.entries.Perm d'.entries := by
  have hnodup : ∀ d : Dict κ α, d.entries.Nodup :=
    fun d => List.Pairwise.of_map Prod.fst (fun _ _ hne heq => hne (congrArg Prod.fst heq)) d.nodup
  refine (List.perm_ext_iff_of_nodup (hnodup d) (hnodup d')).2 fun e => ?_
  rw [← Dict.get?_eq_some_iff, ← Dict.get?_eq_some_iff, h.values]

/-- Dictionaries in the same order are arranged alike. -/
theorem SameOrder.arrange_eq {d d' : Dict κ α} (h : SameOrder d d') :
    arrange d.entries = arrange d'.entries := by
  -- two sorted rows of the same entries are one row, as no name stands in them twice
  have hindices : (d.entries.filter fun e => (index? e.1).isSome).mergeSort indexLe
      = (d'.entries.filter fun e => (index? e.1).isSome).mergeSort indexLe := by
    refine List.Perm.eq_of_pairwise (fun a b ha hb hab hba => ?_)
      (List.pairwise_mergeSort indexLe_trans indexLe_total _)
      (List.pairwise_mergeSort indexLe_trans indexLe_total _)
      ((List.mergeSort_perm _ _).trans ((h.perm.filter _).trans (List.mergeSort_perm _ _).symm))
    obtain ⟨hmem, ha⟩ := List.mem_filter.1 (List.mem_mergeSort.1 ha)
    obtain ⟨hmem', hb⟩ := List.mem_filter.1 (List.mem_mergeSort.1 hb)
    by_cases heq : a.1 = b.1
    · -- one name has one value
      have hvalue := (Dict.get?_eq_some_iff d a.1 a.2).2 hmem
      rw [h.values, heq, (Dict.get?_eq_some_iff d' b.1 b.2).2 hmem'] at hvalue
      exact Prod.ext heq (Option.some.inj hvalue).symm
    · have hlt := lt_of_indexLe ha hb hab heq
      have hgt := lt_of_indexLe hb ha hba (Ne.symm heq)
      omega
  -- the plain names keep the order they were entered in
  have hplain : (d.entries.filter fun e => isPlain e.1)
      = d'.entries.filter fun e => isPlain e.1 := by
    have hkeys : ∀ es : List (κ × α),
        (es.filter fun e => isPlain e.1).map Prod.fst = (es.map Prod.fst).filter isPlain :=
      fun es => by
        rw [List.filter_map]
        rfl
    refine eq_of_lookupEntry ?_ ?_ fun k => ?_
    · exact d.nodup.sublist (List.filter_sublist.map Prod.fst)
    · rw [hkeys, hkeys]
      exact h.plain
    · have hvalue : lookupEntry k d.entries = lookupEntry k d'.entries := h.values k
      rw [lookupEntry_filter, lookupEntry_filter, hvalue]
  rw [arrange, arrange, hindices]
  exact congrArg _ hplain

/-- A record tells whether two dictionaries have the same values and the same order. -/
theorem arrange_eq_iff {d d' : Dict κ α} :
    arrange d.entries = arrange d'.entries ↔ SameOrder d d' := by
  refine ⟨fun h => ⟨fun k => ?_, ?_⟩, SameOrder.arrange_eq⟩
  · show lookupEntry k d.entries = lookupEntry k d'.entries
    rw [← lookupEntry_perm (arrange_perm d.entries) d.nodup, h,
      lookupEntry_perm (arrange_perm d'.entries) d'.nodup]
  · show (d.entries.map Prod.fst).filter isPlain = (d'.entries.map Prod.fst).filter isPlain
    rw [← filter_isPlain_arrange, h, filter_isPlain_arrange]

/-! ### Entries put in -/

/-- New names that are no indices come last, each at its first place. -/
theorem filter_isPlain_insertList (d : Dict κ α) (es : List (κ × α)) :
    (d.insertList es).keys.filter isPlain = d.keys.filter isPlain
      ++ (((es.map Prod.fst).filter isPlain).filter fun k => !d.contains k).eraseDups := by
  rw [Dict.keys_insertList, List.filter_append, ← eraseDups_filter, List.filter_filter,
    List.filter_filter]
  congr 2
  refine List.filter_congr fun k _ => ?_
  rw [Bool.and_comm]
  congr 1
  cases hk : d.contains k with
  | true => simpa using (d.contains_iff k).1 hk
  | false => simpa using mt (d.contains_iff k).2 (by simp [hk])

/-- Entries put into dictionaries that a record lists in the same way. -/
theorem arrange_insertList_congr {d d' : Dict κ α}
    (h : arrange d.entries = arrange d'.entries) (es : List (κ × α)) :
    arrange (d.insertList es).entries = arrange (d'.insertList es).entries := by
  have hsame := arrange_eq_iff.1 h
  refine arrange_eq_iff.2 ⟨fun k => ?_, ?_⟩
  · rw [Dict.get?_insertList, Dict.get?_insertList, hsame.values]
  · have hcontains : d.contains = d'.contains := by
      funext k
      rw [Dict.contains, Dict.contains, hsame.values]
    rw [filter_isPlain_insertList, filter_isPlain_insertList, hsame.plain, hcontains]

namespace Members

/-- What a record of a list of entries lists: its indices in ascending order, then the other names
    in the order of their first entries, and for each name the value of its last entry. -/
structure Lists (es ms : List (κ × α)) : Prop where
  names : ∃ indices : List κ,
    ms.map Prod.fst = indices ++ ((es.map Prod.fst).filter isPlain).eraseDups ∧
    (∀ k ∈ indices, (index? k).isSome = true) ∧
    indices.Pairwise fun a b => (index? a).getD 0 < (index? b).getD 0
  values : ∀ k, lookupEntry k ms = lookupEntry k es.reverse

/-- A record lists its members as it is said to. -/
theorem lists_ofList (es : List (κ × α)) : Lists es (ofList es) where
  names := by
    refine ⟨_, ?_, fun k hk => ?_, pairwise_indices (Dict.ofList es).nodup⟩
    · have hplain : ((Dict.ofList es).entries.filter fun e => isPlain e.1).map Prod.fst
          = ((es.map Prod.fst).filter isPlain).eraseDups := by
        rw [eraseDups_filter, ← Dict.keys_ofList, Dict.keys, List.filter_map]
        rfl
      rw [← hplain, ← List.map_append]
      rfl
    · obtain ⟨e, he, rfl⟩ := List.mem_map.1 hk
      exact (List.mem_filter.1 (List.mem_mergeSort.1 he)).2
  values := by
    intro k
    rw [ofList, lookupEntry_perm (arrange_perm _) (Dict.ofList es).nodup]
    show (Dict.empty.insertList es).get? k = _
    rw [Dict.get?_insertList, Dict.get?_empty, Option.or_none]

/-- A record has a name once: the indices ascend, and no other name is an index. -/
theorem Lists.nodup {es ms : List (κ × α)} (h : Lists es ms) : (ms.map Prod.fst).Nodup := by
  obtain ⟨indices, hnames, hsome, hascending⟩ := h.names
  have hplain : ((es.map Prod.fst).filter isPlain).eraseDups.Nodup := nodup_eraseDups _
  rw [hnames, List.nodup_append]
  refine ⟨nodup_of_ascending hascending, hplain, fun a ha b hb heq => ?_⟩
  rw [eraseDups_filter] at hb
  have hnone : (index? b).isNone = true := (List.mem_filter.1 hb).2
  rw [← heq, ← Option.not_isSome, hsome a ha] at hnone
  exact absurd hnone (by decide)

/-- The indices that a record lists are those under which there is a value. -/
theorem Lists.mem_indices_iff {es ms : List (κ × α)} (h : Lists es ms) {indices : List κ}
    (hnames : ms.map Prod.fst = indices ++ ((es.map Prod.fst).filter isPlain).eraseDups)
    (hsome : ∀ k ∈ indices, (index? k).isSome = true) (k : κ) :
    k ∈ indices ↔ (lookupEntry k es.reverse).isSome = true ∧ (index? k).isSome = true := by
  rw [← h.values, lookupEntry_isSome, hnames, List.mem_append, eraseDups_filter, List.mem_filter,
    isPlain]
  refine ⟨fun hk => ⟨Or.inl hk, hsome k hk⟩, ?_⟩
  rintro ⟨hk | ⟨-, hnone⟩, hindex⟩
  · exact hk
  · rw [← Option.not_isSome, hindex] at hnone
    exact absurd hnone (by decide)

/-- A record lists its members in one way. -/
theorem Lists.unique {es ms ms' : List (κ × α)} (h : Lists es ms) (h' : Lists es ms') :
    ms = ms' := by
  obtain ⟨indices, hnames, hsome, hascending⟩ := h.names
  obtain ⟨indices', hnames', hsome', hascending'⟩ := h'.names
  have hindices : indices = indices' := by
    refine List.Perm.eq_of_pairwise (fun a b _ _ hab hba => ?_) hascending hascending' ?_
    · exact absurd (Nat.lt_trans hab hba) (Nat.lt_irrefl _)
    · refine (List.perm_ext_iff_of_nodup (nodup_of_ascending hascending)
        (nodup_of_ascending hascending')).2 fun k => ?_
      rw [h.mem_indices_iff hnames hsome, h'.mem_indices_iff hnames' hsome']
  refine eq_of_lookupEntry h.nodup (by rw [hnames, hnames', hindices]) fun k => ?_
  rw [h.values, h'.values]

/-- What is said of the order of members leaves only the record itself. -/
theorem lists_iff {es ms : List (κ × α)} : Lists es ms ↔ ms = ofList es :=
  ⟨fun h => h.unique (lists_ofList es), fun h => h ▸ lists_ofList es⟩

end Members

/-- Entries may be put in as a record lists them. -/
theorem arrange_insertList_ofList (d : Dict κ α) (es : List (κ × α)) :
    arrange (d.insertList (Members.ofList es)).entries = arrange (d.insertList es).entries := by
  have hlists := Members.lists_ofList es
  refine arrange_eq_iff.2 ⟨fun k => ?_, ?_⟩
  · have hnodup := nodup_ofList es
    rw [Dict.get?_insertList, Dict.get?_insertList,
      lookupEntry_perm (List.reverse_perm _) hnodup, hlists.values]
  · have hplain : ((Members.ofList es).map Prod.fst).filter isPlain
        = ((es.map Prod.fst).filter isPlain).eraseDups := by
      rw [Members.ofList, filter_isPlain_arrange, eraseDups_filter, ← Dict.keys_ofList]
      rfl
    rw [filter_isPlain_insertList, filter_isPlain_insertList, hplain, eraseDups_filter,
      eraseDups_eraseDups, ← eraseDups_filter]

/-- A record of what a record lists is that record. -/
theorem arrange_ofList_arrange (d : Dict κ α) :
    arrange (Dict.ofList (arrange d.entries)).entries = arrange d.entries := by
  have h := arrange_insertList_ofList Dict.empty d.entries
  have hlist : Members.ofList d.entries = arrange d.entries := by
    rw [Members.ofList, Dict.ofList_entries]
  rw [hlist] at h
  show arrange (Dict.empty.insertList (arrange d.entries)).entries = _
  rw [h]
  exact hlist

/-- Only a record of no members is empty. -/
theorem Members.ofList_eq_nil_iff (es : List (κ × α)) : ofList es = [] ↔ es = [] := by
  have hlength : (ofList es).length = (Dict.ofList es).entries.length :=
    (arrange_perm (Dict.ofList es).entries).length_eq
  rw [← List.length_eq_zero_iff, hlength, List.length_eq_zero_iff]
  constructor
  · intro h
    have hkeys : (es.map Prod.fst).eraseDups = [] := by
      rw [← Dict.keys_ofList, Dict.keys, h]
      rfl
    cases es with
    | nil => rfl
    | cons e es => exact absurd hkeys (by simp [List.eraseDups_cons])
  · rintro rfl
    rfl

end Phrasebook

import Phrasebook.Dict

namespace Phrasebook

/-!
# Looking entries up

* `lookupEntry_eq_find?`, `mem_of_lookupEntry`: the first entry is found, and what is found is
  there.
* `lookupEntry_eq_some_iff`: of entries with distinct keys, what is there is found.
* `lookupEntry_perm`: entries with distinct keys may be put in any order.
* `Dict.eq_of_get?`: keys in their order and the values under them make a dictionary.
* `Dict.get?_eq_some_iff`: what a dictionary has under a key is one of its entries.
* `Dict.entries_insertList`, `Dict.ofList_entries`: entries with new keys come after those there.
* `Dict.get?_insertList`, `Dict.keys_insertList`: of entries put in one after another the last value
  of a key counts, and new keys come in their first order.
-/

variable {κ : Type u} {α : Type v} [DecidableEq κ]

/-- What is found is the value of the first entry with the key. -/
theorem lookupEntry_eq_find? (k : κ) (es : List (κ × α)) :
    lookupEntry k es = (es.find? fun e => e.1 = k).map Prod.snd := by
  induction es with
  | nil => rfl
  | cons e es ih =>
    rw [lookupEntry, List.find?_cons]
    by_cases h : e.1 = k
    · simp [h]
    · simp [h, ih]

/-- What is found is there. -/
theorem mem_of_lookupEntry {k : κ} {a : α}
    {es : List (κ × α)} (h : lookupEntry k es = some a) : (k, a) ∈ es := by
  induction es with
  | nil => exact absurd h (by simp [lookupEntry])
  | cons e es ih =>
    by_cases he : e.1 = k
    · rw [lookupEntry, if_pos he] at h
      have hv : e.2 = a := Option.some.inj h
      rw [← he, ← hv]
      exact List.mem_cons_self
    · rw [lookupEntry, if_neg he] at h
      exact List.mem_cons_of_mem e (ih h)

/-- Nothing is found under a key that is not there. -/
theorem lookupEntry_of_not_mem {k : κ} {es : List (κ × α)} (h : k ∉ es.map Prod.fst) :
    lookupEntry k es = none :=
  Option.not_isSome_iff_eq_none.1 (mt (lookupEntry_isSome k es).1 h)

/-- Where no key is twice, what is there is found. -/
theorem lookupEntry_eq_some_iff {es : List (κ × α)} (h : (es.map Prod.fst).Nodup) (k : κ) (a : α) :
    lookupEntry k es = some a ↔ (k, a) ∈ es := by
  induction es with
  | nil => simp [lookupEntry]
  | cons e es ih =>
    obtain ⟨hhead, htail⟩ := List.nodup_cons.1 h
    by_cases he : e.1 = k
    · have hnot : (k, a) ∉ es := fun hmem => hhead (he ▸ List.mem_map_of_mem hmem)
      rw [lookupEntry, if_pos he, Option.some.injEq, List.mem_cons]
      constructor
      · rintro rfl
        exact Or.inl (Prod.ext he.symm rfl)
      · rintro (hmem | hmem)
        · rw [← hmem]
        · exact absurd hmem hnot
    · have hne : (k, a) ≠ e := fun hmem => he (by rw [← hmem])
      rw [lookupEntry, if_neg he, ih htail, List.mem_cons, or_iff_right hne]

/-- Entries with distinct keys may be looked up in any order. -/
theorem lookupEntry_perm {es fs : List (κ × α)} (h : es.Perm fs) (hnodup : (fs.map Prod.fst).Nodup)
    (k : κ) : lookupEntry k es = lookupEntry k fs := by
  have hnodup' : (es.map Prod.fst).Nodup := (h.map Prod.fst).nodup_iff.2 hnodup
  refine Option.ext fun a => ?_
  rw [lookupEntry_eq_some_iff hnodup', lookupEntry_eq_some_iff hnodup, h.mem_iff]

/-- In two rows, the first one that has the key counts. -/
theorem lookupEntry_append (k : κ) (es fs : List (κ × α)) :
    lookupEntry k (es ++ fs) = (lookupEntry k es).or (lookupEntry k fs) := by
  induction es with
  | nil => rfl
  | cons e es ih =>
    rw [List.cons_append, lookupEntry, lookupEntry]
    by_cases h : e.1 = k
    · rw [if_pos h, if_pos h, Option.some_or]
    · rw [if_neg h, if_neg h, ih]

/-- Only the keys that are kept are found. -/
theorem lookupEntry_filter (p : κ → Bool) (k : κ) (es : List (κ × α)) :
    lookupEntry k (es.filter fun e => p e.1) = if p k then lookupEntry k es else none := by
  induction es with
  | nil => simp [lookupEntry]
  | cons e es ih =>
    rw [List.filter_cons, lookupEntry]
    by_cases h : e.1 = k
    · cases hp : p k <;> simp [h, hp, ih, lookupEntry]
    · cases hp : p e.1 <;> simp [h, ih, lookupEntry]

/-- What is found among changed values is the changed value. -/
theorem lookupEntry_map {β : Type w} (f : α → β) (k : κ) (es : List (κ × α)) :
    lookupEntry k (es.map fun e => (e.1, f e.2)) = (lookupEntry k es).map f := by
  induction es with
  | nil => rfl
  | cons e es ih =>
    rw [List.map_cons, lookupEntry, lookupEntry, ih]
    split <;> rfl

/-- A value under a new key comes last. -/
theorem putEntry_of_not_mem {k : κ} {a : α} {es : List (κ × α)} (h : k ∉ es.map Prod.fst) :
    putEntry k a es = es ++ [(k, a)] := by
  induction es with
  | nil => rfl
  | cons e es ih =>
    have hne : e.1 ≠ k := fun heq => h (heq ▸ List.mem_cons_self)
    rw [putEntry, if_neg hne, ih fun hmem => h (List.mem_cons_of_mem e.1 hmem)]
    rfl

/-- Rows with the same keys in the same order and the same values are the same. -/
theorem eq_of_lookupEntry {es fs : List (κ × α)} (hnodup : (es.map Prod.fst).Nodup)
    (hkeys : es.map Prod.fst = fs.map Prod.fst)
    (hvalues : ∀ k, lookupEntry k es = lookupEntry k fs) : es = fs := by
  induction es generalizing fs with
  | nil => exact (List.map_eq_nil_iff.1 hkeys.symm).symm
  | cons e es ih =>
    cases fs with
    | nil => exact absurd hkeys (by simp)
    | cons f fs =>
      obtain ⟨hkey, hrest⟩ := List.cons.inj hkeys
      obtain ⟨hhead, htail⟩ := List.nodup_cons.1 hnodup
      have hvalue : e.2 = f.2 := by
        have hlookup := hvalues e.1
        rw [lookupEntry, lookupEntry, if_pos rfl, if_pos hkey.symm] at hlookup
        exact Option.some.inj hlookup
      have htails : ∀ k, lookupEntry k es = lookupEntry k fs := by
        intro k
        by_cases hk : e.1 = k
        · -- the key of the head does not come again
          subst hk
          rw [lookupEntry_of_not_mem hhead, lookupEntry_of_not_mem (hrest ▸ hhead)]
        · have hlookup := hvalues k
          rwa [lookupEntry, lookupEntry, if_neg hk, if_neg (hkey ▸ hk)] at hlookup
      rw [ih htail hrest htails, Prod.ext hkey hvalue]

namespace Dict

/-- Keys in their order and the values under them make a dictionary. -/
theorem eq_of_get? {d d' : Dict κ α} (hkeys : d.keys = d'.keys) (h : ∀ k, d.get? k = d'.get? k) :
    d = d' := by
  have hentries : d.entries = d'.entries := eq_of_lookupEntry d.nodup hkeys h
  cases d
  cases d'
  congr

/-- A value is found under a key just where the entry is there. -/
theorem get?_eq_some_iff (d : Dict κ α) (k : κ) (a : α) :
    d.get? k = some a ↔ (k, a) ∈ d.entries :=
  lookupEntry_eq_some_iff d.nodup k a

/-- Entries with new keys, each given once, come after those that are there. -/
theorem entries_insertList {d : Dict κ α} {es : List (κ × α)}
    (h : (es.map Prod.fst).Nodup) (hnew : ∀ e ∈ es, e.1 ∉ d.keys) :
    (d.insertList es).entries = d.entries ++ es := by
  induction es generalizing d with
  | nil => exact (List.append_nil d.entries).symm
  | cons e es ih =>
    obtain ⟨hhead, htail⟩ := List.nodup_cons.1 h
    have hput : (d.insert e.1 e.2).entries = d.entries ++ [e] := by
      have hfresh : e.1 ∉ d.keys := hnew e List.mem_cons_self
      show putEntry e.1 e.2 d.entries = d.entries ++ [e]
      exact putEntry_of_not_mem hfresh
    have hrest : ∀ f ∈ es, f.1 ∉ (d.insert e.1 e.2).keys := by
      intro f hf
      rw [keys, hput, List.map_append, List.mem_append]
      rintro (hmem | hmem)
      · exact hnew f (List.mem_cons_of_mem e hf) hmem
      · have heq : f.1 = e.1 := List.mem_singleton.1 hmem
        exact hhead (heq ▸ List.mem_map_of_mem hf)
    rw [insertList_cons, ih htail hrest, hput, List.append_assoc]
    rfl

/-- A dictionary is built from its own entries. -/
theorem ofList_entries (d : Dict κ α) : ofList d.entries = d := by
  have hentries : (ofList d.entries).entries = d.entries :=
    entries_insertList (d := empty) d.nodup fun _ _ => List.not_mem_nil
  exact eq_of_get? (congrArg (List.map Prod.fst) hentries)
    fun k => congrArg (lookupEntry k) hentries

theorem insertList_append (d : Dict κ α) (es fs : List (κ × α)) :
    d.insertList (es ++ fs) = (d.insertList es).insertList fs :=
  List.foldl_append

/-- Of entries put in one after another, the last value of a key counts. -/
theorem get?_insertList (d : Dict κ α) (es : List (κ × α)) (k : κ) :
    (d.insertList es).get? k = (lookupEntry k es.reverse).or (d.get? k) := by
  induction es generalizing d with
  | nil => rfl
  | cons e es ih =>
    rw [insertList_cons, ih, get?_insert, List.reverse_cons, lookupEntry_append, Option.or_assoc]
    congr 1
    rw [lookupEntry, lookupEntry]
    by_cases h : e.1 = k
    · rw [if_pos h, if_pos h.symm, Option.some_or]
    · rw [if_neg h, if_neg (Ne.symm h), Option.none_or]

/-- Of entries put in one after another, the new keys come in the order of their first entries. -/
theorem keys_insertList (d : Dict κ α) (es : List (κ × α)) :
    (d.insertList es).keys
      = d.keys ++ ((es.map Prod.fst).filter fun k => decide (k ∉ d.keys)).eraseDups := by
  induction es generalizing d with
  | nil => exact (List.append_nil d.keys).symm
  | cons e es ih =>
    rw [insertList_cons, ih, keys_insert, List.map_cons, List.filter_cons]
    by_cases h : e.1 ∈ d.keys
    · simp [h]
    · -- the new key is not new any more for the entries after it
      have hfilter : (es.map Prod.fst).filter (fun k => decide (k ∉ d.keys ++ [e.1]))
          = ((es.map Prod.fst).filter fun k => decide (k ∉ d.keys)).filter fun k => !k == e.1 := by
        rw [List.filter_filter]
        refine List.filter_congr fun k _ => ?_
        by_cases hk : k = e.1 <;> simp [hk]
      rw [if_neg h, if_pos (decide_eq_true h), hfilter, List.eraseDups_cons, List.append_assoc]
      rfl

/-- A value that is there already changes nothing. -/
theorem insert_of_get? {d : Dict κ α} {k : κ} {a : α} (h : d.get? k = some a) :
    d.insert k a = d := by
  refine eq_of_get? ?_ fun k' => ?_
  · have hmem : k ∈ d.keys := (d.contains_iff k).1 (by rw [contains, h]; rfl)
    rw [keys_insert, if_pos hmem]
  · rw [get?_insert]
    by_cases hk : k' = k
    · rw [if_pos hk, hk, h]
    · rw [if_neg hk]

/-- Entries that are there change nothing. -/
theorem insertList_of_get? {d : Dict κ α} {es : List (κ × α)}
    (h : ∀ e ∈ es, d.get? e.1 = some e.2) : d.insertList es = d := by
  induction es with
  | nil => rfl
  | cons e es ih =>
    rw [insertList_cons, insert_of_get? (h e List.mem_cons_self)]
    exact ih fun f hf => h f (List.mem_cons_of_mem e hf)

/-- Entries that were just put in change nothing. -/
theorem insertList_insertList (d : Dict κ α) (es : List (κ × α)) :
    (d.insertList es).insertList es = d.insertList es := by
  refine eq_of_get? ?_ fun k => ?_
  · have hold : ∀ k ∈ es.map Prod.fst, ¬ decide (k ∉ (d.insertList es).keys) = true := by
      intro k hk
      simp only [decide_eq_true_eq, Decidable.not_not]
      rw [← contains_iff, contains, get?_insertList, Option.isSome_or, Bool.or_eq_true,
        lookupEntry_isSome, List.map_reverse, List.mem_reverse]
      exact Or.inl hk
    rw [keys_insertList, List.filter_eq_nil_iff.2 hold]
    exact List.append_nil _
  · rw [get?_insertList, get?_insertList]
    cases lookupEntry k es.reverse <;> rfl

/-- The keys of a dictionary are those of its entries, each at its first place. -/
theorem keys_ofList (es : List (κ × α)) : (ofList es).keys = (es.map Prod.fst).eraseDups := by
  rw [ofList, keys_insertList, keys_empty, List.nil_append]
  exact congrArg List.eraseDups (List.filter_eq_self.2 fun k _ => decide_eq_true List.not_mem_nil)

end Dict

/-! ### Lists without repetitions -/

/-- Without repetitions no key is there twice. -/
theorem nodup_eraseDups (ks : List κ) : ks.eraseDups.Nodup := by
  have hkeys : (Dict.ofList (ks.map fun k => (k, ()))).keys = ks.eraseDups := by
    rw [Dict.keys_ofList, List.map_map]
    exact congrArg List.eraseDups (List.map_id ks)
  exact hkeys ▸ (Dict.ofList (ks.map fun k => (k, ()))).nodup

omit [DecidableEq κ] in
/-- It makes no difference whether repetitions or other keys are left out first. -/
theorem eraseDups_filter [BEq κ] [LawfulBEq κ] (p : κ → Bool) :
    ∀ l : List κ, (l.filter p).eraseDups = l.eraseDups.filter p
  | [] => rfl
  | a :: l => by
    rw [List.eraseDups_cons, List.filter_cons, List.filter_cons]
    have hrest := eraseDups_filter p (l.filter fun b => !b == a)
    rw [List.filter_filter] at hrest
    cases hp : p a with
    | true =>
      rw [if_pos rfl, if_pos rfl, List.eraseDups_cons, List.filter_filter, ← hrest]
      congr 2
      exact List.filter_congr fun b _ => Bool.and_comm _ _
    | false =>
      rw [if_neg (by simp), if_neg (by simp), ← hrest]
      congr 1
      -- what is kept is not the head anyway
      refine List.filter_congr fun b _ => ?_
      by_cases hb : b = a <;> simp [hb, hp]
termination_by l => l.length
decreasing_by
  have hle := List.length_filter_le (fun b => !b == a) l
  simp only [List.length_cons]
  omega

omit [DecidableEq κ] in
/-- Where nothing is repeated there is nothing to leave out. -/
theorem eraseDups_eraseDups [BEq κ] [LawfulBEq κ] :
    ∀ l : List κ, l.eraseDups.eraseDups = l.eraseDups
  | [] => rfl
  | a :: l => by
    have hrest := eraseDups_eraseDups (l.filter fun b => !b == a)
    rw [List.eraseDups_cons, List.eraseDups_cons, eraseDups_filter, hrest, ← eraseDups_filter,
      List.filter_filter]
    congr 2
    exact List.filter_congr fun b _ => Bool.and_self _
termination_by l => l.length
decreasing_by
  have hle := List.length_filter_le (fun b => !b == a) l
  simp only [List.length_cons]
  omega

end Phrasebook

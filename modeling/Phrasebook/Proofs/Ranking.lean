import Phrasebook.Proofs.Negotiation

namespace Phrasebook

/-!
# The order of the languages a reader prefers

The ranges that count are listed by their qualities, the greatest first, and equally good ones as
they stand in the header.  There is one such order, and the order of two headers put together is
that of the first and that of the second merged.

* `Kept`: the ranges of the entries that count, as they stand.
* `Precedes`, `Ranking`: the order, by qualities and then by places.
* `kept_iff`, `ranking_iff`: reading a header gives the ranges that count, and sorting them gives
  their order, which is the only one.
* `Ranking.merge`: the order of two rows of ranges put together.
* `languageRanges_ranked`: what a header is sorted into.
-/

/-! ### Ranges in order -/

/-- The ranges of the entries that count, as they stand. -/
inductive Kept : List (List Char) → List LanguageRange → Prop
  | nil : Kept [] []
  | counted {entry : List Char} {entries : List (List Char)} {r : LanguageRange}
      {rs : List LanguageRange} (hcounts : Counts entry r.range.toList r.quality)
      (hrest : Kept entries rs) : Kept (entry :: entries) (r :: rs)
  | dropped {entry : List Char} {entries : List (List Char)} {rs : List LanguageRange}
      (hnot : ∀ range q, ¬ Counts entry range q) (hrest : Kept entries rs) :
      Kept (entry :: entries) rs

/-- A range, given with its place, comes before another one: its quality is greater, or it is the
    same and the place is an earlier one. -/
def Precedes (a b : LanguageRange × Nat) : Prop :=
  b.1.quality.lt a.1.quality = true ∨ (a.1.quality = b.1.quality ∧ a.2 < b.2)

/-- Ranges in their order: each one is there as often as it was, and comes before all that
    follow. -/
def Ranking (kept ranked : List LanguageRange) : Prop :=
  ∃ placed : List (LanguageRange × Nat),
    placed.Perm kept.zipIdx ∧ placed.Pairwise Precedes ∧ placed.map Prod.fst = ranked

/-- The ranges of a header that count, in their order. -/
def Ranked (header : String) (ranked : List LanguageRange) : Prop :=
  ∃ kept, Kept (header.toList.splitOn ',') kept ∧ Ranking kept ranked

/-! ### Ranges that count -/

namespace LanguageRange

/-- An entry that counts is read as its range and its quality. -/
theorem ofEntry?_eq_some_iff {entry : List Char} {r : LanguageRange} :
    ofEntry? entry = some r ↔ Counts entry r.range.toList r.quality := by
  rw [counts_iff, String.ofList_toList]
  constructor
  · intro h
    exact ⟨r, h, rfl, rfl⟩
  · rintro ⟨r', h, hrange, hquality⟩
    obtain rfl : r' = r := by
      cases r'
      cases r
      subst hrange hquality
      rfl
    exact h

/-- An entry that does not count is not read. -/
theorem ofEntry?_eq_none_iff {entry : List Char} :
    ofEntry? entry = none ↔ ∀ range q, ¬ Counts entry range q := by
  rw [Option.eq_none_iff_forall_ne_some]
  constructor
  · intro hnone range q hcounts
    obtain ⟨r, hr, -⟩ := counts_iff.1 hcounts
    exact hnone r hr
  · intro hnot r hr
    exact hnot _ _ (ofEntry?_eq_some_iff.1 hr)

end LanguageRange

/-- The ranges kept are those of the entries that are read. -/
theorem kept_iff {entries : List (List Char)} {rs : List LanguageRange} :
    Kept entries rs ↔ rs = entries.filterMap LanguageRange.ofEntry? := by
  constructor
  · intro h
    induction h with
    | nil => rfl
    | counted hcounts _ ih =>
      rw [List.filterMap_cons_some (LanguageRange.ofEntry?_eq_some_iff.2 hcounts), ← ih]
    | dropped hnot _ ih =>
      rw [List.filterMap_cons_none (LanguageRange.ofEntry?_eq_none_iff.2 hnot), ← ih]
  · rintro rfl
    induction entries with
    | nil => exact .nil
    | cons entry entries ih =>
      cases hread : LanguageRange.ofEntry? entry with
      | none =>
        rw [List.filterMap_cons_none hread]
        exact .dropped (LanguageRange.ofEntry?_eq_none_iff.1 hread) ih
      | some r =>
        rw [List.filterMap_cons_some hread]
        exact .counted (LanguageRange.ofEntry?_eq_some_iff.1 hread) ih

/-- The ranges kept of a header are those that are read from it. -/
theorem kept_header_iff {header : String} {rs : List LanguageRange} :
    Kept (header.toList.splitOn ',') rs ↔ rs = LanguageRange.ofHeader header := by
  rw [kept_iff, LanguageRange.ofHeader, List.splitOn_eq_splitOnP]

/-- Two headers with a comma between them, one after the other. -/
theorem LanguageRange.ofHeader_append (h₁ h₂ : String) :
    ofHeader (h₁ ++ "," ++ h₂) = ofHeader h₁ ++ ofHeader h₂ := by
  have hlist : (h₁ ++ "," ++ h₂).toList = h₁.toList ++ ',' :: h₂.toList := by
    rw [String.toList_append, String.toList_append, List.append_assoc]
    rfl
  rw [ofHeader, hlist, List.splitOnP_append_cons (p := fun c => c == ',') _ _ rfl,
    List.filterMap_append]
  rfl

/-! ### One order -/

namespace Precedes

variable {a b : LanguageRange × Nat}

/-- In terms of the order of qualities that does not tell equal ones apart. -/
theorem iff_le : Precedes a b ↔
    b.1.quality ≤ a.1.quality ∧ (a.1.quality ≤ b.1.quality → a.2 < b.2) := by
  rw [Precedes, Number.Double.lt_iff_not_le b.1.isFinite a.1.isFinite]
  constructor
  · rintro (hless | ⟨heq, hplace⟩)
    · exact ⟨(Number.Double.le_total b.1.isFinite a.1.isFinite).resolve_right hless,
        fun hle => absurd hle hless⟩
    · have hrefl := (Number.Double.le_total a.1.isFinite a.1.isFinite).elim id id
      exact ⟨heq ▸ hrefl, fun _ => hplace⟩
  · rintro ⟨hle, hplace⟩
    by_cases hge : a.1.quality ≤ b.1.quality
    · exact Or.inr ⟨Number.Double.le_antisymm a.1.isFinite b.1.isFinite hge hle, hplace hge⟩
    · exact Or.inl hge

/-- No two places each precede the other. -/
theorem asymm (h : Precedes a b) : ¬ Precedes b a := by
  rw [iff_le] at h ⊢
  intro h'
  exact Nat.lt_asymm (h.2 h'.1) (h'.2 h.1)

/-- Where two places are different, one range comes before the other just where sorting with places
    may leave it there. -/
theorem iff_zipIdxLE (hplace : a.2 ≠ b.2) :
    Precedes a b ↔ List.zipIdxLE LanguageRange.before a b = true := by
  have hbefore := LanguageRange.before_iff
  rw [iff_le, List.zipIdxLE, ← hbefore, ← hbefore]
  by_cases hab : a.1.before b.1 = true
  · by_cases hba : b.1.before a.1 = true
    · simp only [hab, hba, true_and, true_imp_iff, if_true, decide_eq_true_eq]
      omega
    · simp [hab, hba]
  · simp [hab]

end Precedes

/-- A row whose places are all different is in order just where sorting with places may leave it as
    it is. -/
theorem pairwise_precedes_iff {placed : List (LanguageRange × Nat)}
    (hplaces : (placed.map Prod.snd).Nodup) :
    placed.Pairwise Precedes ↔
      placed.Pairwise fun a b => List.zipIdxLE LanguageRange.before a b = true := by
  have hne : placed.Pairwise fun a b => a.2 ≠ b.2 := List.pairwise_map.1 hplaces
  constructor
  · intro h
    exact (hne.and h).imp fun hab => (Precedes.iff_zipIdxLE hab.1).1 hab.2
  · intro h
    exact (hne.and h).imp fun hab => (Precedes.iff_zipIdxLE hab.1).2 hab.2

/-- In another order every place is still there once. -/
theorem nodup_places {placed : List (LanguageRange × Nat)} {kept : List LanguageRange}
    (h : placed.Perm kept.zipIdx) : (placed.map Prod.snd).Nodup := by
  rw [(h.map Prod.snd).nodup_iff, List.zipIdx_map_snd]
  exact List.nodup_range'

/-- Sorting gives the order. -/
theorem ranking_mergeSort (kept : List LanguageRange) :
    Ranking kept (kept.mergeSort LanguageRange.before) := by
  have hperm := List.mergeSort_perm kept.zipIdx (List.zipIdxLE LanguageRange.before)
  refine ⟨_, hperm, ?_, List.mergeSort_zipIdx⟩
  rw [pairwise_precedes_iff (nodup_places hperm)]
  exact List.pairwise_mergeSort (List.zipIdxLE_trans LanguageRange.before_trans)
    (List.zipIdxLE_total LanguageRange.before_total) _

/-- There is no other order. -/
theorem Ranking.unique {kept ranked ranked' : List LanguageRange} (h : Ranking kept ranked)
    (h' : Ranking kept ranked') : ranked = ranked' := by
  obtain ⟨placed, hperm, hordered, rfl⟩ := h
  obtain ⟨placed', hperm', hordered', rfl⟩ := h'
  have hsame : placed = placed' :=
    (hperm.trans hperm'.symm).eq_of_pairwise (fun _ _ _ _ hab hba => absurd hba hab.asymm)
      hordered hordered'
  rw [hsame]

/-- There is one ranking, the one in which the ranges are sorted. -/
theorem ranking_iff {kept ranked : List LanguageRange} :
    Ranking kept ranked ↔ ranked = kept.mergeSort LanguageRange.before :=
  ⟨fun h => h.unique (ranking_mergeSort kept), fun h => h ▸ ranking_mergeSort kept⟩

/-- So there is one for a header. -/
theorem ranked_iff {header : String} {ranked : List LanguageRange} :
    Ranked header ranked ↔
      ranked = (LanguageRange.ofHeader header).mergeSort LanguageRange.before := by
  simp only [Ranked, kept_header_iff, exists_eq_left, ranking_iff]

/-! ### Two rows put together -/

/-- Places that come after a number of others. -/
def shift (n : Nat) (a : LanguageRange × Nat) : LanguageRange × Nat :=
  (a.1, n + a.2)

/-- In two rows, the places of the second one are shifted by the length of the first. -/
theorem zipIdx_append_eq (k₁ k₂ : List LanguageRange) :
    (k₁ ++ k₂).zipIdx = k₁.zipIdx ++ k₂.zipIdx.map (shift k₁.length) := by
  rw [List.zipIdx_append, Nat.zero_add, List.zipIdx_eq_map_add (i := k₁.length)]
  rfl

/-- Shifting both places leaves their order. -/
theorem precedes_shift {n : Nat} {a b : LanguageRange × Nat} (h : Precedes a b) :
    Precedes (shift n a) (shift n b) :=
  h.imp id fun hsame => ⟨hsame.1, Nat.add_lt_add_left hsame.2 n⟩

/-- Two rankings are merged to the ranking of both rows. -/
theorem Ranking.merge {k₁ k₂ r₁ r₂ : List LanguageRange} (h₁ : Ranking k₁ r₁)
    (h₂ : Ranking k₂ r₂) : Ranking (k₁ ++ k₂) (r₁.merge r₂ LanguageRange.before) := by
  obtain ⟨p₁, hperm₁, hordered₁, rfl⟩ := h₁
  obtain ⟨p₂, hperm₂, hordered₂, rfl⟩ := h₂
  -- the places of the second row come after those of the first
  let q₂ := p₂.map (shift k₁.length)
  have hperm : (p₁.merge q₂ (List.zipIdxLE LanguageRange.before)).Perm (k₁ ++ k₂).zipIdx := by
    rw [zipIdx_append_eq]
    exact (List.merge_perm_append _).trans (hperm₁.append (hperm₂.map _))
  refine ⟨p₁.merge q₂ (List.zipIdxLE LanguageRange.before), hperm, ?_, ?_⟩
  · have hplaces := nodup_places ((List.merge_perm_append _).symm.trans hperm)
    rw [List.map_append, List.nodup_append] at hplaces
    have hordered : q₂.Pairwise Precedes :=
      List.pairwise_map.2 (hordered₂.imp precedes_shift)
    rw [pairwise_precedes_iff (nodup_places hperm)]
    exact List.pairwise_merge (List.zipIdxLE_trans LanguageRange.before_trans)
      (List.zipIdxLE_total LanguageRange.before_total) _ _
      ((pairwise_precedes_iff hplaces.1).1 hordered₁)
      ((pairwise_precedes_iff hplaces.2.1).1 hordered)
  · have hplaces : ∀ a b, a ∈ p₁ → b ∈ q₂ → a.2 ≤ b.2 := by
      intro a b ha hb
      obtain ⟨c, -, rfl⟩ := List.mem_map.1 hb
      have hlt : a.2 < k₁.length := by
        simpa using List.snd_lt_add_of_mem_zipIdx (hperm₁.mem_iff.1 ha)
      show a.2 ≤ k₁.length + c.2
      omega
    have hstable := @List.merge_stable _ LanguageRange.before p₁ q₂ hplaces
    rw [hstable, List.map_map]
    rfl

/-! ### Headers -/

/-- Whether a range is as good as another one. -/
def LanguageRange.asGood (a b : LanguageRange) : Bool :=
  decide (b.quality ≤ a.quality)

/-- The sign of a difference of qualities says which range is as good as the other. -/
theorem LanguageRange.before_eq_asGood : before = asGood := by
  funext a b
  rw [Bool.eq_iff_iff, before_iff, asGood, decide_eq_true_eq]

/-- So are those of two headers. -/
theorem ranked_append {h₁ h₂ : String} {r₁ r₂ : List LanguageRange} (hr₁ : Ranked h₁ r₁)
    (hr₂ : Ranked h₂ r₂) : Ranked (h₁ ++ "," ++ h₂) (r₁.merge r₂ LanguageRange.asGood) := by
  simp only [Ranked, kept_header_iff, exists_eq_left] at hr₁ hr₂ ⊢
  rw [LanguageRange.ofHeader_append, ← LanguageRange.before_eq_asGood]
  exact hr₁.merge hr₂

/-- A request has the ranges of its header in the order of their ranking. -/
theorem languageRanges_of_ranked {header : String} {ranked : List LanguageRange}
    (h : Ranked header ranked) : languageRanges header = ranked.map LanguageRange.range := by
  rw [languageRanges, ranked_iff.1 h]

/-- A header is sorted into the one order of its ranges that count: by their qualities, the greatest
    first, and equally good ones as they stand.  Two headers put together are sorted into the order
    of the first and that of the second merged, where of equally good ranges those of the first come
    first. -/
theorem languageRanges_ranked :
    (∀ header, ∃ ranked, (∀ other, Ranked header other ↔ other = ranked) ∧
      languageRanges header = ranked.map LanguageRange.range) ∧
    ∀ h₁ h₂ r₁ r₂, Ranked h₁ r₁ → Ranked h₂ r₂ →
      Ranked (h₁ ++ "," ++ h₂) (r₁.merge r₂ LanguageRange.asGood) ∧
      languageRanges (h₁ ++ "," ++ h₂)
        = (r₁.merge r₂ LanguageRange.asGood).map LanguageRange.range := by
  constructor
  · intro header
    exact ⟨_, fun other => ranked_iff, rfl⟩
  · intro h₁ h₂ r₁ r₂ hr₁ hr₂
    have hmerged := ranked_append hr₁ hr₂
    exact ⟨hmerged, languageRanges_of_ranked hmerged⟩

/-- The better of two ranges comes first though its header comes second, even where the two
    qualities are the least that there are and their difference is the least of all numbers. -/
theorem languageRanges_ranked_least :
    ∃ a b : LanguageRange, Ranked "fr;q=5e-324, * " [a] ∧ Ranked "de;q=1e-323" [b] ∧
      ([a].merge [b] LanguageRange.asGood).map LanguageRange.range = ["de", "fr"] ∧
      languageRanges "fr;q=5e-324, * ,de;q=1e-323" = ["de", "fr"] := by
  have hfr : (LanguageRange.ofHeader "fr;q=5e-324, * ").map (fun r => (r.range, r.quality))
      = [("fr", .ofText "5e-324".toList)] := by decide +kernel
  have hde : (LanguageRange.ofHeader "de;q=1e-323").map (fun r => (r.range, r.quality))
      = [("de", .ofText "1e-323".toList)] := by decide +kernel
  obtain ⟨a, ha, hfr⟩ := List.map_eq_singleton_iff.1 hfr
  obtain ⟨b, hb, hde⟩ := List.map_eq_singleton_iff.1 hde
  obtain ⟨hrange, hquality⟩ := Prod.mk.inj hfr
  obtain ⟨hrange', hquality'⟩ := Prod.mk.inj hde
  have hranked : Ranked "fr;q=5e-324, * " [a] := ranked_iff.2 (by rw [ha, List.mergeSort_singleton])
  have hranked' : Ranked "de;q=1e-323" [b] := ranked_iff.2 (by rw [hb, List.mergeSort_singleton])
  have hworse : LanguageRange.asGood a b = false := by
    rw [LanguageRange.asGood, hquality, hquality']
    decide +kernel
  have hmerge : ([a].merge [b] LanguageRange.asGood).map LanguageRange.range = ["de", "fr"] := by
    rw [List.cons_merge_cons, if_neg (by rw [hworse]; decide), List.merge_right, List.map_cons,
      List.map_singleton, hrange, hrange']
  obtain ⟨-, hsorted⟩ := languageRanges_ranked.2 _ _ [a] [b] hranked hranked'
  exact ⟨a, b, hranked, hranked', hmerge, hsorted.trans hmerge⟩

end Phrasebook

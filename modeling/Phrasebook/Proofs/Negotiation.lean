import Phrasebook.Proofs.Number.Difference
import Phrasebook.Proofs.Text.Trim
import Phrasebook.Service

namespace Phrasebook

/-!
# The best of the languages a reader prefers

Negotiation sorts the ranges that count and takes the first one that names a locale.  That is a
choice of the best entry: the one of the greatest quality, and the earliest of equally good ones.

* `StatesQuality`, `HasQuality`, `Counts`, `NamesLocale`, `Offers`: what an entry of a header says.
* `Best`: the locale of the best entry.
* `findSome?_mergeSort`: the first find in a stable sort, by positions in the list that was sorted.
* `LanguageRange.before_iff`: the sign of a difference of qualities says which one is greater.
* `preferred?_eq_some_iff`, `best_filter`: the best entry is what is found, and entries that offer
  nothing are of no account.
* `Service.negotiate_best`: the locale that a service comes to.
-/

/-! ### What an entry says -/

/-- A parameter states a quality: it is named `q` in some letter case, and its value is a number. -/
inductive StatesQuality : List Char → Number.Double → Prop
  | value {param name value : List Char} {rest : List (List Char)}
      (hsplit : param.splitOn '=' = name :: value :: rest)
      (hname : Text.lower (Text.trim name) = ['q']) :
      StatesQuality param (.ofText (Text.trim value))
  | bare {param name : List Char} (hsplit : param.splitOn '=' = [name])
      (hname : Text.lower (Text.trim name) = ['q']) : StatesQuality param .nan

/-- The quality of an entry with these parameters: the last one that states it decides. -/
inductive HasQuality (params : List (List Char)) : Number.Double → Prop
  | usual (hnone : ∀ p ∈ params, ∀ q, ¬ StatesQuality p q) : HasQuality params (.ofInt 1)
  | stated {before after : List (List Char)} {last : List Char} {q : Number.Double}
      (hsplit : params = before ++ last :: after) (hlast : StatesQuality last q)
      (hnone : ∀ p ∈ after, ∀ r, ¬ StatesQuality p r) : HasQuality params q

/-- An entry counts with a range and a quality. -/
structure Counts (entry range : List Char) (q : Number.Double) : Prop where
  parts : ∃ first params, entry.splitOn ';' = first :: params ∧ range = Text.trim first ∧
    HasQuality params q
  ne_nil : range ≠ []
  ne_any : range ≠ ['*']
  isFinite : q.isFinite = true
  positive : Number.Double.zero.lt q = true

/-- A range names a locale: the whole of it does, or else the part before its first separator. -/
def NamesLocale (range : List Char) (l : Locale) : Prop :=
  Locale.ofTag? (String.ofList range) = some l ∨
    (Locale.ofTag? (String.ofList range) = none ∧
      Locale.ofTag? (String.ofList (range.takeWhile fun c => c ≠ '-' ∧ c ≠ '_')) = some l)

/-- An entry offers a locale with a quality: it counts and names that locale. -/
def Offers (entry : List Char) (q : Number.Double) (l : Locale) : Prop :=
  ∃ range, Counts entry range q ∧ NamesLocale range l

/-- The locale of the entry of the greatest quality among those that offer one, the earliest of
    equally good ones. -/
def Best (entries : List (List Char)) (l : Locale) : Prop :=
  ∃ before entry after q, entries = before ++ entry :: after ∧ Offers entry q l ∧
    (∀ e ∈ before, ∀ r m, Offers e r m → r.lt q = true) ∧
    ∀ e ∈ after, ∀ r m, Offers e r m → r ≤ q

/-- The entries of a header, if there is one. -/
def entriesOf (header : Option String) : List (List Char) :=
  header.elim [] fun h => h.toList.splitOn ','

/-! ### Reading an entry -/

/-- Blanks around a number do not count. -/
theorem Number.Double.ofText_trim (s : List Char) : ofText (Text.trim s) = ofText s := by
  have htrim : Text.trim (Text.trim s) = Text.trim s := Text.trim_of_trimmed (Text.trimmed_trim s)
  rw [ofText, ofText, htrim]

/-- A parameter states the quality that is read from it. -/
theorem statesQuality_iff {param : List Char} {q : Number.Double} :
    StatesQuality param q ↔ statedQuality? param = some q := by
  rw [statedQuality?, qualityName, ← List.splitOn_eq_splitOnP]
  constructor
  · intro h
    cases h with
    | value hsplit hname =>
      rw [hsplit]
      simp [hname, Number.Double.ofText_trim]
    | bare hsplit hname =>
      rw [hsplit]
      simp [hname]
  · intro h
    split at h
    · exact absurd h (by simp)
    · next name values hsplit =>
      split at h
      · next hname =>
        obtain rfl := Option.some.inj h
        cases values with
        | nil => exact .bare hsplit hname
        | cons value rest =>
          rw [List.head?_cons, Option.map_some, Option.getD_some, ← Number.Double.ofText_trim]
          exact .value hsplit hname
      · exact absurd h (by simp)

/-- It states none just where none is read. -/
theorem not_statesQuality_iff {param : List Char} :
    (∀ q, ¬ StatesQuality param q) ↔ statedQuality? param = none := by
  simp only [statesQuality_iff, Option.eq_none_iff_forall_ne_some, ne_eq]

/-- The quality is the last one that is stated. -/
theorem hasQuality_iff {params : List (List Char)} {q : Number.Double} :
    HasQuality params q ↔ qualityOf params = q := by
  rw [qualityOf]
  constructor
  · intro h
    cases h with
    | usual hnone =>
      have hfilter : params.filterMap statedQuality? = [] :=
        List.filterMap_eq_nil_iff.2 fun p hp => not_statesQuality_iff.1 (hnone p hp)
      rw [hfilter, List.getLast?_nil, Option.getD_none]
    | stated hsplit hlast hnone =>
      have hafter := List.filterMap_eq_nil_iff.2 fun p hp => not_statesQuality_iff.1 (hnone p hp)
      rw [hsplit, List.filterMap_append, List.filterMap_cons, statesQuality_iff.1 hlast, hafter,
        List.getLast?_append, List.getLast?_singleton, Option.some_or, Option.getD_some]
  · rintro rfl
    cases hlast : (params.filterMap statedQuality?).getLast? with
    | none =>
      rw [Option.getD_none]
      refine .usual fun p hp => not_statesQuality_iff.2 ?_
      exact List.filterMap_eq_nil_iff.1 (List.getLast?_eq_none_iff.1 hlast) p hp
    | some q =>
      rw [Option.getD_some]
      -- the last quality that is stated splits the parameters there
      obtain ⟨qs, hqs⟩ := List.getLast?_eq_some_iff.1 hlast
      obtain ⟨before, rest, hparams, -, hrest⟩ := List.filterMap_eq_append_iff.1 hqs
      obtain ⟨idle, last, after, rfl, -, hstated, hafter⟩ := List.filterMap_eq_cons_iff.1 hrest
      have hsplit : params = (before ++ idle) ++ last :: after := by
        rw [hparams, List.append_assoc]
      refine .stated hsplit (statesQuality_iff.2 hstated) fun p hp => not_statesQuality_iff.2 ?_
      exact List.filterMap_eq_nil_iff.1 hafter p hp

/-- A number is above zero just where it is not at most zero, if it is finite. -/
theorem Number.Double.zero_lt_iff {q : Number.Double} (hq : q.isFinite = true) :
    zero.lt q = true ↔ ¬ q ≤ zero := by
  obtain ⟨h, hzero⟩ := zero_eq
  exact lt_iff_not_le (by rw [hzero]; rfl) hq

/-- An entry counts just where it is read as a range. -/
theorem counts_iff {entry range : List Char} {q : Number.Double} :
    Counts entry range q ↔
      ∃ r, LanguageRange.ofEntry? entry = some r ∧ r.range = String.ofList range ∧
        r.quality = q := by
  rw [LanguageRange.ofEntry?, ← List.splitOn_eq_splitOnP]
  constructor
  · rintro ⟨⟨first, params, hsplit, rfl, hquality⟩, hnil, hany, hfinite, hpositive⟩
    obtain rfl := hasQuality_iff.1 hquality
    -- a range that is neither empty nor any language is kept
    have hkept : ((Text.trim first).isEmpty || Text.trim first == anyLanguage) = false := by
      rw [Bool.or_eq_false_iff, List.isEmpty_eq_false_iff, beq_eq_false_iff_ne]
      exact ⟨hnil, hany⟩
    have hcounts := And.intro hfinite ((Number.Double.zero_lt_iff hfinite).1 hpositive)
    rw [hsplit]
    simp only [hkept, Bool.false_eq_true, if_false, dif_pos hcounts]
    exact ⟨_, rfl, rfl, rfl⟩
  · rintro ⟨r, hread, hrange, rfl⟩
    split at hread
    · exact absurd hread (by simp)
    · next first params hsplit =>
      simp only at hread
      split at hread
      · exact absurd hread (by simp)
      · next hkept =>
        split at hread
        · next hcounts =>
          obtain rfl := Option.some.inj hread
          obtain rfl : Text.trim first = range := String.ofList_injective hrange
          rw [Bool.not_eq_true, Bool.or_eq_false_iff, List.isEmpty_eq_false_iff,
            beq_eq_false_iff_ne] at hkept
          exact ⟨⟨first, params, hsplit, rfl, hasQuality_iff.2 rfl⟩, hkept.1, hkept.2, hcounts.1,
            (Number.Double.zero_lt_iff hcounts.1).2 hcounts.2⟩
        · exact absurd hread (by simp)

/-- A range names the locale that is found for it. -/
theorem namesLocale_iff {range : List Char} {l : Locale} :
    NamesLocale range l ↔ LanguageRange.locale? (String.ofList range) = some l := by
  have hpart : (range.takeWhile fun c => decide (c ≠ '-' ∧ c ≠ '_'))
      = (String.ofList range).toList.takeWhile fun c => !Locale.isTagSeparator c := by
    rw [String.toList_ofList]
    congr 1
    funext c
    simp only [ne_eq, Bool.decide_and, decide_not, Locale.isTagSeparator, Bool.not_or]
    rfl
  rw [NamesLocale, hpart, LanguageRange.locale?, Option.or_eq_some_iff]

/-- What an entry offers. -/
theorem offers_iff {entry : List Char} {q : Number.Double} {l : Locale} :
    Offers entry q l ↔
      ∃ r, LanguageRange.ofEntry? entry = some r ∧ r.quality = q ∧
        LanguageRange.locale? r.range = some l := by
  constructor
  · rintro ⟨range, hcounts, hnames⟩
    obtain ⟨r, hread, hrange, hq⟩ := counts_iff.1 hcounts
    exact ⟨r, hread, hq, hrange ▸ namesLocale_iff.1 hnames⟩
  · rintro ⟨r, hread, hq, hlocale⟩
    have hrange : r.range = String.ofList r.range.toList := (String.ofList_toList).symm
    exact ⟨r.range.toList, counts_iff.2 ⟨r, hread, hrange, hq⟩,
      namesLocale_iff.2 (hrange ▸ hlocale)⟩

/-! ### The first find in a stable sort -/

section

variable {α : Type u} {β : Type v} {le : α → α → Bool}

/-- The first find along a sorted list is a best one of the list that was sorted, and none before
    it there is as good. -/
theorem findSome?_mergeSort (htrans : ∀ a b c, le a b = true → le b c = true → le a c = true)
    (htotal : ∀ a b, (le a b || le b a) = true) (g : α → Option β) {xs : List α} {y : β}
    (h : (xs.mergeSort le).findSome? g = some y) :
    ∃ before x after, xs = before ++ x :: after ∧ g x = some y ∧
      (∀ z ∈ before, g z ≠ none → le z x = false) ∧ ∀ z ∈ after, g z ≠ none → le x z = true := by
  have hle : ∀ a b, le a b = false → le b a = true := fun a b hab => by
    have hor := htotal a b
    rwa [hab, Bool.false_or] at hor
  induction xs generalizing y with
  | nil => exact absurd h (by simp)
  | cons a xs ih =>
    -- the head is put behind those that are strictly better, and all else stays as it was
    obtain ⟨better, others, hsort, hrest, hbetter⟩ := List.mergeSort_cons htrans htotal a xs
    rw [hsort, List.findSome?_append, List.findSome?_cons] at h
    rw [hrest, List.findSome?_append] at ih
    cases ha : g a with
    | none =>
      rw [ha] at h
      obtain ⟨before, x, after, rfl, hx, hbefore, hafter⟩ := ih h
      refine ⟨a :: before, x, after, rfl, hx, fun z hz hsome => ?_, hafter⟩
      rcases List.mem_cons.1 hz with rfl | hz
      · exact absurd ha hsome
      · exact hbefore z hz hsome
    | some y' =>
      rw [ha] at h
      cases hfind : better.findSome? g with
      | none =>
        rw [hfind] at h
        refine ⟨[], a, xs, rfl, ha.trans h, fun z hz => absurd hz (by simp), fun z hz hsome => ?_⟩
        have hmem : z ∈ better ++ others := by
          rw [← hrest]
          exact List.mem_mergeSort.2 hz
        have hsorted := List.pairwise_mergeSort htrans htotal (a :: xs)
        rw [hsort, List.pairwise_append] at hsorted
        rcases List.mem_append.1 hmem with hz | hz
        · exact absurd (List.findSome?_eq_none_iff.1 hfind z hz) hsome
        · exact (List.pairwise_cons.1 hsorted.2.1).1 z hz
      | some w =>
        rw [hfind] at h ih
        obtain ⟨before, x, after, hxs, hx, hbefore, hafter⟩ := ih h
        refine ⟨a :: before, x, after, by rw [hxs]; rfl, hx, fun z hz hsome => ?_, hafter⟩
        rcases List.mem_cons.1 hz with rfl | hz
        · -- the one that is found among the better ones is no better than `x`
          obtain ⟨v, hv, hgv⟩ := List.exists_of_findSome?_eq_some hfind
          have hvsome : g v ≠ none := by rw [hgv]; simp
          have hvmem : v ∈ before ++ x :: after := by
            have hsorted : v ∈ xs.mergeSort le := by
              rw [hrest]
              exact List.mem_append_left _ hv
            exact hxs ▸ List.mem_mergeSort.1 hsorted
          have hxv : le x v = true := by
            rcases List.mem_append.1 hvmem with hv | hv
            · exact hle v x (hbefore v hv hvsome)
            · rcases List.mem_cons.1 hv with rfl | hv
              · simpa using htotal v v
              · exact hafter v hv hvsome
          have hzv : le z v = false := by simpa using hbetter v hv
          rw [← Bool.not_eq_true]
          intro hzx
          rw [htrans z x v hzx hxv] at hzv
          exact absurd hzv (by simp)
        · exact hbefore z hz hsome

end

/-! ### The order of ranges -/

namespace LanguageRange

/-- The sign of the difference of two qualities says which one is greater. -/
theorem before_iff (a b : LanguageRange) : a.before b = true ↔ b.quality ≤ a.quality := by
  rw [before, decide_eq_true_eq, excess, Number.Double.sub_le_zero_iff b.isFinite a.isFinite]

theorem before_trans (a b c : LanguageRange) (hab : a.before b = true) (hbc : b.before c = true) :
    a.before c = true := by
  rw [before_iff] at hab hbc ⊢
  exact Number.Double.le_trans c.isFinite b.isFinite a.isFinite hbc hab

theorem before_total (a b : LanguageRange) : (a.before b || b.before a) = true := by
  rw [Bool.or_eq_true, before_iff, before_iff]
  exact Number.Double.le_total b.isFinite a.isFinite

/-- A range is not before another one just where its quality is less. -/
theorem before_eq_false_iff (a b : LanguageRange) :
    a.before b = false ↔ a.quality.lt b.quality = true := by
  rw [← Bool.not_eq_true, before_iff, Number.Double.lt_iff_not_le a.isFinite b.isFinite]

end LanguageRange

/-! ### The best entry -/

/-- Two positions in a list are the same one, or one comes before the other. -/
theorem append_cons_cases {α : Type u} {before after before' after' : List α} {x x' : α}
    (h : before ++ x :: after = before' ++ x' :: after') :
    x = x' ∨ (x' ∈ after ∧ x ∈ before') ∨ (x' ∈ before ∧ x ∈ after') := by
  rcases List.append_eq_append_iff.1 h with ⟨mid, rfl, hmid⟩ | ⟨mid, rfl, hmid⟩
  · cases mid with
    | nil => exact Or.inl (List.cons.inj hmid).1
    | cons y mid =>
      obtain ⟨rfl, rfl⟩ := List.cons.inj hmid
      exact Or.inr (Or.inl ⟨by simp, by simp⟩)
  · cases mid with
    | nil => exact Or.inl (List.cons.inj hmid).1.symm
    | cons y mid =>
      obtain ⟨rfl, rfl⟩ := List.cons.inj hmid
      exact Or.inr (Or.inr ⟨by simp, by simp⟩)

/-- The quality of an offer is finite. -/
theorem Offers.isFinite {entry : List Char} {q : Number.Double} {l : Locale}
    (h : Offers entry q l) : q.isFinite = true := by
  obtain ⟨range, hcounts, -⟩ := h
  exact hcounts.isFinite

/-- An entry offers one locale. -/
theorem Offers.unique {entry : List Char} {q r : Number.Double} {l m : Locale}
    (h : Offers entry q l) (h' : Offers entry r m) : l = m := by
  obtain ⟨a, ha, -, hl⟩ := offers_iff.1 h
  obtain ⟨b, hb, -, hm⟩ := offers_iff.1 h'
  obtain rfl : a = b := Option.some.inj (ha.symm.trans hb)
  exact Option.some.inj (hl.symm.trans hm)

/-- There is one best locale. -/
theorem Best.unique {entries : List (List Char)} {l m : Locale} (h : Best entries l)
    (h' : Best entries m) : l = m := by
  obtain ⟨before, e, after, q, rfl, he, hbefore, hafter⟩ := h
  obtain ⟨before', e', after', q', heq, he', hbefore', hafter'⟩ := h'
  -- neither of two different best entries could be the earlier one
  rcases append_cons_cases heq with rfl | ⟨hlater, hearlier⟩ | ⟨hearlier, hlater⟩
  · exact he.unique he'
  · have hlt := hbefore' e hearlier q l he
    rw [Number.Double.lt_iff_not_le he.isFinite he'.isFinite] at hlt
    exact absurd (hafter e' hlater q' m he') hlt
  · have hlt := hbefore e' hearlier q' m he'
    rw [Number.Double.lt_iff_not_le he'.isFinite he.isFinite] at hlt
    exact absurd (hafter' e hlater q l he) hlt

/-- What is found in the sorted ranges is the best entry. -/
theorem best_of_preferred? {header : String} {l : Locale} (h : preferred? header = some l) :
    Best (header.toList.splitOn ',') l := by
  rw [preferred?, languageRanges, List.findSome?_map] at h
  obtain ⟨before, r, after, hranges, hr, hbefore, hafter⟩ :=
    findSome?_mergeSort LanguageRange.before_trans LanguageRange.before_total _ h
  -- the range comes from an entry, and those around it from the entries around that one
  rw [LanguageRange.ofHeader, ← List.splitOn_eq_splitOnP] at hranges
  obtain ⟨first, rest, hentries, hfirst, hrest⟩ := List.filterMap_eq_append_iff.1 hranges
  obtain ⟨idle, entry, last, rfl, hidle, hread, hlast⟩ := List.filterMap_eq_cons_iff.1 hrest
  refine ⟨first ++ idle, entry, last, r.quality, ?_, offers_iff.2 ⟨r, hread, rfl, hr⟩, ?_, ?_⟩
  · rw [hentries, List.append_assoc]
  · intro e he q m hoffers
    obtain ⟨s, hs, rfl, hm⟩ := offers_iff.1 hoffers
    have hnamed : LanguageRange.locale? s.range ≠ none := by rw [hm]; simp
    rcases List.mem_append.1 he with he | he
    · have hmem : s ∈ before := hfirst ▸ List.mem_filterMap.2 ⟨e, he, hs⟩
      exact (LanguageRange.before_eq_false_iff s r).1 (hbefore s hmem hnamed)
    · rw [hidle e he] at hs
      exact absurd hs (by simp)
  · intro e he q m hoffers
    obtain ⟨s, hs, rfl, hm⟩ := offers_iff.1 hoffers
    have hnamed : LanguageRange.locale? s.range ≠ none := by rw [hm]; simp
    have hmem : s ∈ after := hlast ▸ List.mem_filterMap.2 ⟨e, he, hs⟩
    exact (LanguageRange.before_iff r s).1 (hafter s hmem hnamed)

/-- Nothing is found just where no entry offers a locale. -/
theorem preferred?_eq_none_iff {header : String} :
    preferred? header = none ↔ ∀ e ∈ header.toList.splitOn ',', ∀ q l, ¬ Offers e q l := by
  rw [preferred?, languageRanges, List.findSome?_map, List.findSome?_eq_none_iff]
  simp only [List.mem_mergeSort, LanguageRange.ofHeader, ← List.splitOn_eq_splitOnP]
  constructor
  · intro hnone e he q l hoffers
    obtain ⟨r, hread, -, hl⟩ := offers_iff.1 hoffers
    have hno := hnone r (List.mem_filterMap.2 ⟨e, he, hread⟩)
    rw [Function.comp_apply, hl] at hno
    exact absurd hno (by simp)
  · intro hnone r hr
    obtain ⟨e, he, hread⟩ := List.mem_filterMap.1 hr
    cases hl : LanguageRange.locale? r.range with
    | none => exact hl
    | some l => exact absurd (offers_iff.2 ⟨r, hread, rfl, hl⟩) (hnone e he r.quality l)

/-- The best locale is on offer. -/
theorem Best.exists_offers {entries : List (List Char)} {l : Locale} (h : Best entries l) :
    ∃ e ∈ entries, ∃ q, Offers e q l := by
  obtain ⟨before, e, after, q, rfl, he, -⟩ := h
  exact ⟨e, by simp, q, he⟩

/-- The locale that a header prefers is the best one on offer in it. -/
theorem preferred?_eq_some_iff {header : String} {l : Locale} :
    preferred? header = some l ↔ Best (header.toList.splitOn ',') l := by
  refine ⟨best_of_preferred?, fun hbest => ?_⟩
  cases hfound : preferred? header with
  | none =>
    obtain ⟨e, he, q, hoffers⟩ := hbest.exists_offers
    exact absurd hoffers (preferred?_eq_none_iff.1 hfound e he q l)
  | some m => rw [(best_of_preferred? hfound).unique hbest]

/-- Whether an entry offers a locale. -/
def isOffering (entry : List Char) : Bool :=
  ((LanguageRange.ofEntry? entry).bind fun r => LanguageRange.locale? r.range).isSome

/-- Whether an entry offers a locale can be computed. -/
theorem isOffering_iff {entry : List Char} :
    isOffering entry = true ↔ ∃ q l, Offers entry q l := by
  rw [isOffering, Option.isSome_iff_exists]
  simp only [Option.bind_eq_some_iff, offers_iff]
  constructor
  · rintro ⟨l, r, hread, hl⟩
    exact ⟨r.quality, l, r, hread, rfl, hl⟩
  · rintro ⟨q, l, r, hread, -, hl⟩
    exact ⟨l, r, hread, hl⟩

/-- Only the entries that offer a locale are of account. -/
theorem best_filter (entries : List (List Char)) (l : Locale) :
    Best (entries.filter isOffering) l ↔ Best entries l := by
  constructor
  · rintro ⟨before, e, after, q, hfilter, he, hbefore, hafter⟩
    obtain ⟨first, rest, rfl, hfirst, hrest⟩ := List.filter_eq_append_iff.1 hfilter
    obtain ⟨idle, last, rfl, hidle, -, hlast⟩ := List.filter_eq_cons_iff.1 hrest
    refine ⟨first ++ idle, e, last, q, by rw [List.append_assoc], he, fun d hd r m hoffers => ?_,
      fun d hd r m hoffers => ?_⟩
    · have hoffering : isOffering d = true := isOffering_iff.2 ⟨r, m, hoffers⟩
      rcases List.mem_append.1 hd with hd | hd
      · exact hbefore d (hfirst ▸ List.mem_filter.2 ⟨hd, hoffering⟩) r m hoffers
      · exact absurd hoffering (hidle d hd)
    · have hoffering : isOffering d = true := isOffering_iff.2 ⟨r, m, hoffers⟩
      exact hafter d (hlast ▸ List.mem_filter.2 ⟨hd, hoffering⟩) r m hoffers
  · rintro ⟨before, e, after, q, rfl, he, hbefore, hafter⟩
    refine ⟨before.filter isOffering, e, after.filter isOffering, q, ?_, he,
      fun d hd => hbefore d (List.mem_filter.1 hd).1,
      fun d hd => hafter d (List.mem_filter.1 hd).1⟩
    rw [List.filter_append, List.filter_cons_of_pos (isOffering_iff.2 ⟨q, l, he⟩)]

/-- No entry is left just where none offers a locale. -/
theorem filter_isOffering_eq_nil_iff {entries : List (List Char)} :
    entries.filter isOffering = [] ↔ ∀ e ∈ entries, ∀ q l, ¬ Offers e q l := by
  rw [List.filter_eq_nil_iff]
  simp only [isOffering_iff, not_exists]

/-! ### Negotiation -/

/-- The header with these entries. -/
def headerOf (entries : List (List Char)) : String :=
  String.ofList ([','].intercalate entries)

/-- A header of entries has these entries. -/
theorem entriesOf_headerOf {entries : List (List Char)} (hne : entries ≠ [])
    (hcomma : ∀ e ∈ entries, ',' ∉ e) : entriesOf (some (headerOf entries)) = entries := by
  show (headerOf entries).toList.splitOn ',' = entries
  rw [headerOf, String.toList_ofList, List.splitOn_intercalate ',' hcomma hne]

/-- The entries of a header that is put together from entries.  Where there is none, the header has
    one that is empty and offers nothing. -/
theorem filter_entriesOf_headerOf {entries : List (List Char)} (hcomma : ∀ e ∈ entries, ',' ∉ e) :
    (entriesOf (some (headerOf entries))).filter isOffering = entries.filter isOffering := by
  by_cases hne : entries = []
  · rw [hne]
    decide +kernel
  · rw [entriesOf_headerOf hne hcomma]

namespace Service

/-- A service comes to the locale that the header prefers, or else to its default locale. -/
theorem answer_negotiate (sv : Service) (header : Option String) :
    (sv.negotiate header).answer = (header.bind preferred?).getD sv.defaultLocale := by
  have hempty : preferred? "" = none := by decide +kernel
  unfold negotiate
  split
  · rfl
  · rw [Option.bind_some, hempty]
    rfl
  · next header _ =>
    rw [Option.bind_some]
    cases preferred? header <;> rfl

/-- A service comes to the locale of the best entry, or to the default one where no entry offers a
    locale. -/
theorem answer_negotiate_iff (sv : Service) (header : Option String) (l : Locale) :
    (sv.negotiate header).answer = l ↔
      Best (entriesOf header) l ∨
        ((∀ e ∈ entriesOf header, ∀ q m, ¬ Offers e q m) ∧ l = sv.defaultLocale) := by
  rw [answer_negotiate, eq_comm (a := l)]
  cases header with
  | none =>
    have hno : ¬ Best [] l := fun hbest => by
      obtain ⟨e, he, -⟩ := hbest.exists_offers
      exact absurd he (by simp)
    exact ⟨fun h => Or.inr ⟨fun e he => absurd he (by simp [entriesOf]), h⟩,
      fun h => (h.resolve_left hno).2⟩
  | some header =>
    show (preferred? header).getD sv.defaultLocale = l ↔
      Best (header.toList.splitOn ',') l ∨
        ((∀ e ∈ header.toList.splitOn ',', ∀ q m, ¬ Offers e q m) ∧ sv.defaultLocale = l)
    rw [← preferred?_eq_some_iff, ← preferred?_eq_none_iff]
    cases preferred? header with
    | none => simp
    | some m => simp

/-- Only the entries that offer a locale are of account. -/
theorem answer_negotiate_congr (sv : Service) {header header' : Option String}
    (h : (entriesOf header).filter isOffering = (entriesOf header').filter isOffering) :
    (sv.negotiate header).answer = (sv.negotiate header').answer := by
  have hself := (sv.answer_negotiate_iff header' _).1 rfl
  rw [← best_filter, ← filter_isOffering_eq_nil_iff] at hself
  rw [answer_negotiate_iff, ← best_filter, ← filter_isOffering_eq_nil_iff, h]
  exact hself

/-- A service comes to the locale of the best entry of a header, and to its default locale where no
    entry offers one or there is no header; entries that offer nothing may be put anywhere or taken
    away. -/
theorem negotiate_best (sv : Service) :
    (∀ header l, (sv.negotiate header).answer = l ↔
      Best (entriesOf header) l ∨
        ((∀ e ∈ entriesOf header, ∀ q m, ¬ Offers e q m) ∧ l = sv.defaultLocale)) ∧
    (sv.negotiate none).answer = sv.defaultLocale ∧
    (sv.negotiate (some "")).answer = sv.defaultLocale ∧
    ∀ before idle after : List (List Char), (∀ e ∈ before ++ idle ++ after, ',' ∉ e) →
      (∀ e ∈ idle, ∀ q l, ¬ Offers e q l) →
      (sv.negotiate (some (headerOf (before ++ idle ++ after)))).answer
        = (sv.negotiate (some (headerOf (before ++ after)))).answer := by
  refine ⟨sv.answer_negotiate_iff, rfl, rfl, fun before idle after hcomma hidle => ?_⟩
  have hcomma' : ∀ e ∈ before ++ after, ',' ∉ e := fun e he => hcomma e <| by
    rw [List.append_assoc]
    exact (List.mem_append.1 he).elim (List.mem_append_left _) fun he =>
      List.mem_append_right _ (List.mem_append_right _ he)
  refine sv.answer_negotiate_congr ?_
  rw [filter_entriesOf_headerOf hcomma, filter_entriesOf_headerOf hcomma', List.filter_append,
    List.filter_append, filter_isOffering_eq_nil_iff.2 hidle, List.append_nil, List.filter_append]

/-- The better of two entries wins though it comes later, and entries of an unknown language, of any
    language and without a quality do not disturb it. -/
theorem negotiate_best_disturbed :
    let sv : Service := { defaultLocale := default, fallback := none }
    let idle := ["xx".toList, " * ".toList, "it; Q=1;q=0".toList]
    let entries := "fr;q=0.5".toList :: idle ++ ["de; Q=0.8;p=1".toList]
    (∀ e ∈ entries, ',' ∉ e) ∧ (∀ e ∈ idle, ∀ q l, ¬ Offers e q l) ∧
      (sv.negotiate (some (headerOf entries))).answer.tag = "de" := by
  intro sv idle entries
  have hcomma : ∀ e ∈ entries, ',' ∉ e := by decide +kernel
  have hidle : ∀ e ∈ idle, ∀ q l, ¬ Offers e q l :=
    filter_isOffering_eq_nil_iff.1 (by decide +kernel)
  obtain ⟨hbest, -, -, hinsert⟩ := negotiate_best sv
  have hsame := hinsert ["fr;q=0.5".toList] idle ["de; Q=0.8;p=1".toList] hcomma hidle
  -- without the idle entries there are two, and the second is better
  have hfr : (LanguageRange.ofEntry? "fr;q=0.5".toList).all
      (fun r => r.quality.lt (.ofText "0.8".toList)) = true := by decide +kernel
  have hde : (LanguageRange.ofEntry? "de; Q=0.8;p=1".toList).any (fun r =>
      r.quality = .ofText "0.8".toList ∧
        (LanguageRange.locale? r.range).map Locale.tag = some "de") = true := by decide +kernel
  obtain ⟨r, hr, htest⟩ := (Option.any_eq_true _ _).1 hde
  obtain ⟨hq, htag⟩ := of_decide_eq_true htest
  obtain ⟨l, hl, hltag⟩ := Option.map_eq_some_iff.1 htag
  have hanswer : (sv.negotiate (some (headerOf ["fr;q=0.5".toList, "de; Q=0.8;p=1".toList]))).answer
      = l := by
    rw [hbest]
    refine Or.inl ⟨["fr;q=0.5".toList], "de; Q=0.8;p=1".toList, [], r.quality, ?_,
      offers_iff.2 ⟨r, hr, rfl, hl⟩, fun e he s m hoffers => ?_, by simp⟩
    · exact entriesOf_headerOf (by simp) (by decide +kernel)
    · obtain ⟨t, ht, rfl, -⟩ := offers_iff.1 hoffers
      rw [List.mem_singleton.1 he] at ht
      rw [ht] at hfr
      rw [hq]
      exact hfr
  refine ⟨hcomma, hidle, ?_⟩
  have hentries : entries = ["fr;q=0.5".toList] ++ idle ++ ["de; Q=0.8;p=1".toList] := rfl
  rw [hentries, hsame, List.singleton_append, hanswer, hltag]

end Service

end Phrasebook

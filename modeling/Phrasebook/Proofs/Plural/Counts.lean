import Phrasebook.Proofs.Plural.Grammar

namespace Phrasebook

/-!
# Counts of any size

A count is rounded to a number of double precision before it is compared with the bounds of a guard.
The bounds are integers of at most 53 bits, and rounding carries no integer past one of these.  So
the branch that is chosen is the one that comparing the integers themselves would choose, whatever
their size and however the count is written.

* `Guard.Admits`: what a guard says of a number, and `Template.Chosen` what a row of branches says.
* `Guard.admits_onCounts_iff`: a guard admits an integer just where it admits its number.
* `Scalar.Counts`: the counts that stand for an integer.
* `Template.select_eq_iff_chosen`: these choose what the integer chooses.
-/

open Number (Double IntegerText)

namespace Guard

variable {ν : Type u}

/-- What a guard says of a number. -/
def Admits [LE ν] : Guard ν → ν → Prop
  | oneOf values, x => x ∈ values
  | between low high, x => low ≤ x ∧ x ≤ high
  | atLeast low, x => low ≤ x
  | atMost high, x => x ≤ high

/-- A guard holds of the numbers that it admits. -/
theorem holds_iff_admits [DecidableEq ν] [LE ν] [DecidableLE ν] (g : Guard ν) (x : ν) :
    g.holds x = true ↔ g.Admits x := by
  cases g <;> simp [holds, Admits]

/-- A guard with bounds of at most 53 bits admits an integer just where it admits its number. -/
theorem admits_onCounts_iff {g : Guard Int} (hexact : ∀ b ∈ g.bounds, b.natAbs ≤ Double.maxSafe)
    (n : Int) : g.onCounts.Admits (Double.ofInt n) ↔ g.Admits n := by
  cases g with
  | oneOf values =>
    show Double.ofInt n ∈ values.map Double.ofInt ↔ n ∈ values
    rw [List.mem_map]
    constructor
    · rintro ⟨b, hb, heq⟩
      -- a value and the count may only have one number if they are one integer
      rw [(Double.ofInt_eq_ofInt_iff (hexact b hb) n).1 heq.symm]
      exact hb
    · intro hn
      exact ⟨n, hn, rfl⟩
  | between low high =>
    have hlow := Double.ofInt_le_ofInt_iff (hexact low (by simp [bounds])) n
    have hhigh := Double.ofInt_le_ofInt_iff' (hexact high (by simp [bounds])) n
    exact and_congr hlow hhigh
  | atLeast low => exact Double.ofInt_le_ofInt_iff (hexact low (by simp [bounds])) n
  | atMost high => exact Double.ofInt_le_ofInt_iff' (hexact high (by simp [bounds])) n

end Guard

/-! ### Counts -/

/-- A count that stands for an integer: the integer itself, a text that writes it and is not out of
    range as a number, or a number that is it and has at most 53 bits. -/
inductive Scalar.Counts (n : Int) : Scalar → Prop
  | integer : Counts n (.integer n)
  | text {d : IntegerText} (hvalue : d.value = n)
      (hfinite : (Double.ofText d.text).isFinite = true) : Counts n (.text (String.ofList d.text))
  | number {x : Double} (hx : x.toSafeInt? = some n) : Counts n (.number x)

/-- Every count that stands for an integer comes to the number nearest to it. -/
theorem Scalar.Counts.count?_eq {n : Int} {count : Scalar} (h : count.Counts n) :
    count.count? = some (.ofInt n) := by
  cases h with
  | integer => rfl
  | text hvalue hfinite =>
    next d =>
    -- a text with digits is not blank, and a finite number is that of its integer
    have hblank : (Text.trim d.text).isEmpty = false := by
      rw [d.trim_text, List.isEmpty_eq_false_iff]
      exact List.append_ne_nil_of_right_ne_nil _ d.digits_ne_nil
    rw [count?, String.toList_ofList, hblank, if_neg Bool.false_ne_true]
    show (if (Double.ofText d.text).isFinite = true then _ else _) = _
    rw [if_pos hfinite, IntegerText.ofText_of_isFinite hfinite, hvalue]
  | number hx =>
    next x =>
    obtain ⟨hint, hsafe⟩ := Option.filter_eq_some_iff.1 hx
    have hsafe : n.natAbs ≤ Double.maxSafe := by simpa using hsafe
    rw [(Double.toInt?_eq_some_iff hsafe x).1 hint, count?, if_pos (Double.isFinite_ofInt hsafe)]

/-! ### Branches -/

namespace Template

/-- The text that an integer chooses: that of the first branch whose guard admits it, or else the
    fallback. -/
inductive Chosen (branches : List Branch) (fallback : String) (n : Int) : String → Prop
  | first {before after : List Branch} {b : Branch} (hbranches : branches = before ++ b :: after)
      (hbefore : ∀ a ∈ before, ¬ a.guard.Admits n) (hb : b.guard.Admits n) :
      Chosen branches fallback n b.text
  | none (hnone : ∀ b ∈ branches, ¬ b.guard.Admits n) : Chosen branches fallback n fallback

/-- A number chooses what an integer does if each guard holds of both or of neither. -/
theorem choose_eq_iff_chosen {branches : List Branch} {x : Double} {n : Int}
    (hagree : ∀ b ∈ branches, b.guard.onCounts.holds x = true ↔ b.guard.Admits n)
    (fallback t : String) : choose branches fallback x = t ↔ Chosen branches fallback n t := by
  constructor
  · rintro rfl
    unfold choose
    split
    · next b hfind =>
      obtain ⟨hb, before, after, rfl, hbefore⟩ := List.find?_eq_some_iff_append.1 hfind
      -- a branch before it that admits the integer would have been found
      refine .first rfl (fun a ha hadmits => ?_) ((hagree b (by simp)).1 hb)
      have hholds := (hagree a (by simp [ha])).2 hadmits
      simpa [hholds] using hbefore a ha
    · next hfind =>
      refine .none fun b hb hadmits => ?_
      exact List.find?_eq_none.1 hfind b hb ((hagree b hb).2 hadmits)
  · intro h
    cases h with
    | first hbranches hbefore hb =>
      next before after b =>
      subst hbranches
      have hfind : (before ++ b :: after).find? (fun b => b.guard.onCounts.holds x) = some b := by
        refine List.find?_eq_some_iff_append.2
          ⟨(hagree b (by simp)).2 hb, before, after, rfl, fun a ha => ?_⟩
        have hnot := mt (hagree a (by simp [ha])).1 (hbefore a ha)
        simpa using hnot
      rw [choose, hfind]
    | none hnone =>
      have hfind : branches.find? (fun b => b.guard.onCounts.holds x) = .none := by
        rw [List.find?_eq_none]
        intro b hb
        exact mt (hagree b hb).1 (hnone b hb)
      rw [choose, hfind]

/-- The bounds of every guard that is read are integers of at most 53 bits. -/
theorem exact_of_parse {source fallback : String} {branches : List Branch}
    (h : parse source = .ok (.plural branches fallback)) :
    ∀ b ∈ branches, ∀ n ∈ b.guard.bounds, n.natAbs ≤ Double.maxSafe := by
  obtain ⟨before, last, hpieces⟩ := Plural.exists_pieces source.toList
  intro b hb
  by_cases hbefore : before = []
  · rw [parse_of_piece (hbefore ▸ hpieces)] at h
    exact absurd h (by simp)
  · obtain ⟨branches', hread, heq⟩ := (parse_eq_ok_iff hpieces hbefore _).1 h
    obtain ⟨rfl, -⟩ := Template.plural.inj heq
    obtain ⟨p, -, hp⟩ := (exists_of_forall₂ hread).2 b hb
    exact hp.exact

/-- Every count that stands for an integer is rounded to the number nearest to it, and chooses the
    first branch whose guard admits the integer itself, or else the fallback. -/
theorem select_eq_iff_chosen {source fallback : String} {branches : List Branch}
    (h : parse source = .ok (.plural branches fallback)) {n : Int} {count : Scalar}
    (hcount : count.Counts n) (t : String) :
    count.count? = some (.ofInt n) ∧
      (select branches fallback count = t ↔ Chosen branches fallback n t) := by
  have hagree : ∀ b ∈ branches,
      b.guard.onCounts.holds (Double.ofInt n) = true ↔ b.guard.Admits n := by
    intro b hb
    rw [Guard.holds_iff_admits]
    exact Guard.admits_onCounts_iff (exact_of_parse h b hb) n
  refine ⟨hcount.count?_eq, ?_⟩
  rw [select, hcount.count?_eq]
  exact choose_eq_iff_chosen hagree fallback t

/-- One more than a bound of 53 bits and an odd integer just beyond it come to one number, and an
    integer of 400 digits to none that is finite; the guards tell all of them from the bound. -/
theorem select_eq_iff_chosen_beyond :
    let branches : List Branch :=
      [⟨.oneOf [9007199254740991], "most"⟩, ⟨.atLeast 9007199254740991, "more"⟩]
    select branches "less" (.integer (10 ^ 200 * 10 ^ 200)) = "more" ∧
      select branches "less" (.text " +9007199254740993 ") = "more" ∧
      select branches "less" (.number (.ofInt 9007199254740991)) = "most" := by
  intro branches
  have hparse : parse "\x7b9007199254740991\x7d most | \x7b9007199254740991..\x7d more | less"
      = .ok (.plural branches "less") := by
    decide +kernel
  let d : IntegerText :=
    { before := [' '], sign := ['+'], digits := "9007199254740993".toList, after := [' ']
      blank_before := Text.isBlank_of_mem_space, blank_after := Text.isBlank_of_mem_space
      isSign := Or.inr (Or.inl rfl)
      isDigit := List.all_eq_true.1 (by decide), digits_ne_nil := by decide }
  have hmost : ∀ n : Int, n ≠ 9007199254740991 →
      ∀ a ∈ [(⟨.oneOf [9007199254740991], "most"⟩ : Branch)], ¬ a.guard.Admits n := by
    intro n hn a ha
    rw [List.mem_singleton.1 ha]
    exact fun h => hn (List.mem_singleton.1 h)
  refine ⟨?_, ?_, ?_⟩
  · have hlarge : (9007199254740991 : Int) ≤ 10 ^ 200 * 10 ^ 200 := by decide
    exact (select_eq_iff_chosen hparse .integer _).2.2
      (.first rfl (hmost _ (by decide)) hlarge)
  · have hd : Scalar.Counts 9007199254740993 (.text (String.ofList d.text)) :=
      .text (by decide) (by decide +kernel)
    have hlarge : (9007199254740991 : Int) ≤ 9007199254740993 := by decide
    exact (select_eq_iff_chosen hparse hd _).2.2
      (.first rfl (hmost _ (by decide)) hlarge)
  · have hx : Scalar.Counts 9007199254740991 (.number (.ofInt 9007199254740991)) :=
      .number (by decide +kernel)
    have hnone : ∀ a ∈ ([] : List Branch), ¬ a.guard.Admits 9007199254740991 := by simp
    exact (select_eq_iff_chosen hparse hx _).2.2
      (.first rfl hnone (List.mem_singleton.2 rfl))

end Template

end Phrasebook

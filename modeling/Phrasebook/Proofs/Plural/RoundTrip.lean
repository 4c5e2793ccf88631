import Phrasebook.Proofs.Plural.Grammar

namespace Phrasebook

/-!
# Templates read back

What reading makes of a plural template in its plain spelling: the guards, texts and fallback that
it was written from.

* `Guard.spelled`, `Branch.spelled`, `Template.spelled`: the plain spelling, with blanks of one's
  own choice after each comma of a guard.
* `Branch.Writable`: what can be written and read back.
* `Plural.guardText_spelled`, `Plural.readPiece_spelled`, `Plural.readPieces_spelled`: guards,
  branches and whole templates.
* `Template.parse_spelled`: reading undoes writing.
-/

open Number (intText)

/-! ### The spelling -/

/-- A guard in its plain spelling, with a row of blanks after each comma. -/
def Guard.spelled (gap : List Char) : Guard Int → List Char
  | oneOf values => (',' :: gap).intercalate (values.map fun n => (intText n).toList)
  | g => g.written

/-- A branch in its plain spelling. -/
def Branch.spelled (gap : List Char) (b : Branch) : List Char :=
  '{' :: (b.guard.spelled gap ++ '}' :: ' ' :: Plural.escape b.text.toList)

/-- Branches and a fallback in their plain spelling. -/
def Template.spelled (gap : List Char) (branches : List Branch) (fallback : String) : List Char :=
  Plural.barJoin.intercalate
    (branches.map (Branch.spelled gap) ++ [Plural.escape fallback.toList])

/-- Without blanks after the commas this is the plainest spelling. -/
theorem Template.spelled_nil (branches : List Branch) (fallback : String) :
    Template.spelled [] branches fallback = Template.written branches fallback := by
  have hguard : ∀ g : Guard Int, g.spelled [] = g.written := fun g => by cases g <;> rfl
  have hbranch : Branch.spelled [] = Branch.written := by
    funext b
    rw [Branch.spelled, Branch.written, hguard]
  rw [Template.spelled, Template.written, hbranch]
  rfl

/-- A guard that states at least one number and only exact ones, and a text without outer
    blanks. -/
structure Branch.Writable (b : Branch) : Prop where
  stated : b.guard.bounds ≠ []
  exact : ∀ n ∈ b.guard.bounds, n.natAbs ≤ Number.Double.maxSafe
  trimmed : Text.Trimmed b.text.toList

namespace Plural

/-! ### Guards -/

/-- A written integer of at most 53 bits states a bound, and blanks may stand before it. -/
theorem boundText_intText {gap : List Char} (hgap : ∀ c ∈ gap, Text.isBlank c = true) {n : Int}
    (hn : n.natAbs ≤ Number.Double.maxSafe) : BoundText (gap ++ (intText n).toList) n := by
  have hvalue : Nat.ofDigitChars 10 (Number.digitChars n.natAbs) 0 = n.natAbs :=
    Nat.ofDigitChars_ten_toDigits
  let d : Number.IntegerText :=
    { before := gap, sign := Number.signOf n, digits := Number.digitChars n.natAbs, after := []
      blank_before := hgap
      blank_after := fun _ hc => absurd hc List.not_mem_nil
      isSign := by unfold Number.signOf; split <;> simp
      isDigit := fun _ hc => Number.isDigit_of_mem_digitChars hc
      digits_ne_nil := Nat.toDigits_ne_nil }
  refine ⟨d, ?_, ?_, hn⟩
  · show gap ++ (Number.signOf n ++ Number.digitChars n.natAbs) ++ [] = _
    rw [List.append_nil, Number.toList_intText]
  · show (if Number.signOf n == ['-'] then -(Nat.ofDigitChars 10 _ 0 : Int)
      else Nat.ofDigitChars 10 _ 0) = n
    rw [hvalue, Number.signOf]
    by_cases h : n < 0
    · rw [if_pos h, if_pos (by decide)]
      omega
    · rw [if_neg h, if_neg (by decide)]
      omega

/-- Blanks after each separator may as well stand before each later part. -/
theorem intercalate_gap (a : α) (gap x : List α) (xs : List (List α)) :
    (a :: gap).intercalate (x :: xs) = [a].intercalate (x :: xs.map (gap ++ ·)) := by
  induction xs generalizing x with
  | nil => rw [List.map_nil, List.intercalate_singleton, List.intercalate_singleton]
  | cons y ys ih =>
    rw [List.map_cons, List.intercalate_cons_cons, List.intercalate_cons_cons, ih y]
    cases ys <;> simp

variable {gap : List Char}

/-- A spelled guard states that guard. -/
theorem guardText_spelled (hgap : ∀ c ∈ gap, Text.isBlank c = true) {g : Guard Int}
    (hstated : g.bounds ≠ []) (hexact : ∀ n ∈ g.bounds, n.natAbs ≤ Number.Double.maxSafe) :
    GuardText (g.spelled gap) g := by
  have hbound : ∀ n ∈ g.bounds, BoundText (intText n).toList n := by
    intro n hn
    exact boundText_intText (fun _ hc => absurd hc List.not_mem_nil) (hexact n hn)
  cases g with
  | oneOf values =>
    cases values with
    | nil => exact absurd rfl hstated
    | cons v vs =>
      rw [Guard.spelled, List.map_cons, intercalate_gap, List.map_map]
      refine .oneOf (List.cons_ne_nil _ _) (.cons (hbound v (by simp [Guard.bounds])) ?_)
      rw [List.forall₂_map_left_iff, List.forall₂_same]
      intro n hn
      exact boundText_intText hgap (hexact n (by simp [Guard.bounds, hn]))
  | between low high =>
    exact .between (hbound low (by simp [Guard.bounds])) (hbound high (by simp [Guard.bounds]))
  | atLeast low => exact .atLeast (hbound low (by simp [Guard.bounds]))
  | atMost high => exact .atMost (hbound high (by simp [Guard.bounds]))

/-! ### Branches -/

/-- Escaping leaves the first character. -/
theorem head?_escape (s : List Char) : (escape s).head? = s.head? := by
  cases s with
  | nil => rfl
  | cons c s =>
    by_cases h : c = '|'
    · subst h
      rfl
    · simp [escape, h]

/-- Escaping leaves the last character. -/
theorem getLast?_escape (s : List Char) : (escape s).getLast? = s.getLast? := by
  rcases List.eq_nil_or_concat s with rfl | ⟨t, c, rfl⟩
  · rfl
  · by_cases h : c = '|'
    · subst h
      simp [escape]
    · simp [escape, h]

/-- Escaping puts no blank at either end. -/
theorem trimmed_escape {s : List Char} (h : Text.Trimmed s) : Text.Trimmed (escape s) where
  start := by
    rw [head?_escape]
    exact h.start
  stop := by
    rw [getLast?_escape]
    exact h.stop

/-- A branch that is spelled is not cut. -/
theorem uncut_spelled (hgap : ∀ c ∈ gap, Text.isBlank c = true) {b : Branch} (hb : b.Writable) :
    Uncut (b.spelled gap) := by
  have hbar : '|' ∉ b.guard.spelled gap :=
    (guardText_spelled hgap hb.stated hb.exact).not_mem (by decide) (by decide) (by decide)
      (by decide)
  have hguard : '|' ∉ '{' :: (b.guard.spelled gap ++ ['}', ' ']) := by simp [hbar]
  have hcut := Uncut.append hguard (uncut_escape b.text.toList)
  rwa [List.cons_append, List.append_assoc] at hcut

/-- Trimming a spelled branch leaves its guard and, but for blanks, its text. -/
theorem exists_trim_spelled (gap : List Char) {b : Branch} (h : Text.Trimmed b.text.toList) :
    ∃ rest, Text.trim (b.spelled gap) = '{' :: (b.guard.spelled gap ++ '}' :: rest) ∧
      Text.trim rest = escape b.text.toList := by
  have htext : Text.Trimmed (escape b.text.toList) := trimmed_escape h
  have hbrace : Text.isBlank '{' = false ∧ Text.isBlank '}' = false := by decide
  by_cases hempty : escape b.text.toList = []
  · -- without a text, the blank after the guard goes
    have hguard : Text.Trimmed ('{' :: (b.guard.spelled gap ++ ['}'])) := by
      refine ⟨fun c hc => ?_, fun c hc => ?_⟩
      · rw [← Option.some.inj hc]
        exact hbrace.1
      · rw [← List.cons_append, List.getLast?_concat] at hc
        rw [← Option.some.inj hc]
        exact hbrace.2
    have hspelled : b.spelled gap = '{' :: (b.guard.spelled gap ++ ['}']) ++ [' '] := by
      rw [Branch.spelled, hempty, List.cons_append, List.append_assoc]
      rfl
    refine ⟨[], ?_, ?_⟩
    · rw [hspelled, Text.trim_append_blank Text.isBlank_of_mem_space, Text.trim_of_trimmed hguard]
    · rw [hempty]
      rfl
  -- with a text, nothing is at the ends that could be trimmed
  · have hbranch : Text.Trimmed (b.spelled gap) := by
      refine ⟨fun c hc => ?_, fun c hc => ?_⟩
      · rw [← Option.some.inj hc]
        exact hbrace.1
      · have hlast : (b.spelled gap).getLast? = (escape b.text.toList).getLast? := by
          rw [show b.spelled gap
              = ('{' :: (b.guard.spelled gap ++ ['}', ' '])) ++ escape b.text.toList by
            simp [Branch.spelled]]
          rw [List.getLast?_append, Option.or_of_isSome]
          rwa [List.getLast?_isSome]
        exact htext.stop c (hlast ▸ hc)
    refine ⟨' ' :: escape b.text.toList, Text.trim_of_trimmed hbranch, ?_⟩
    have htrim : Text.trim ([' '] ++ escape b.text.toList) = Text.trim (escape b.text.toList) :=
      Text.trim_blank_append Text.isBlank_of_mem_space _
    rw [Text.trim_of_trimmed htext] at htrim
    exact htrim

/-- A spelled branch is read as that branch. -/
theorem readPiece_spelled (hgap : ∀ c ∈ gap, Text.isBlank c = true) {b : Branch}
    (hb : b.Writable) : readPiece (Text.trim (b.spelled gap)) = .ok b := by
  obtain ⟨rest, htrim, hrest⟩ := exists_trim_spelled gap hb.trimmed
  have hguard := guardText_spelled hgap hb.stated hb.exact
  have hbrace : '}' ∉ b.guard.spelled gap :=
    hguard.not_mem (by decide) (by decide) (by decide) (by decide)
  have hbranch : BranchText ('{' :: (b.guard.spelled gap ++ '}' :: rest)) _ :=
    .intro hbrace hguard
  rw [hrest, unescape_escape, String.ofList_toList] at hbranch
  rw [readPiece_eq_ok_iff, htrim]
  exact hbranch

/-! ### Templates -/

/-- Branches that are spelled are read back. -/
theorem mapM_readPiece (hgap : ∀ c ∈ gap, Text.isBlank c = true) {branches : List Branch}
    (hwritable : ∀ b ∈ branches, b.Writable) :
    (branches.map fun b => Text.trim (b.spelled gap)).mapM readPiece = .ok branches := by
  rw [mapM_eq_ok_iff, List.forall₂_map_left_iff, List.forall₂_same]
  intro b hb
  exact readPiece_spelled hgap (hwritable b hb)

/-- Pieces that are, but for outer blanks, spelled branches and a fallback are read as these. -/
theorem readPieces_spelled (hgap : ∀ c ∈ gap, Text.isBlank c = true) {branches : List Branch}
    {fallback : String} (hne : branches ≠ []) (hwritable : ∀ b ∈ branches, b.Writable)
    (hfallback : Text.Trimmed fallback.toList) (whole : List Char) {ps : List (List Char)}
    (hps : ps.map Text.trim
      = (branches.map (Branch.spelled gap) ++ [escape fallback.toList]).map Text.trim) :
    readPieces whole ps = .ok (.plural branches fallback) := by
  rw [List.map_append, List.map_map] at hps
  -- all pieces but the last one are branches
  obtain ⟨before, tail, rfl, hbefore, htail⟩ := List.map_eq_append_iff.1 hps
  obtain ⟨last, rfl, hlast⟩ : ∃ last, tail = [last] ∧
      Text.trim last = Text.trim (escape fallback.toList) := by
    obtain ⟨last, rest, rfl, hlast, hrest⟩ := List.map_eq_cons_iff.1 htail
    rw [List.map_eq_nil_iff.1 hrest]
    exact ⟨last, rfl, hlast⟩
  have hsome : before ≠ [] := by
    rintro rfl
    exact hne (List.map_eq_nil_iff.1 hbefore.symm)
  rw [readPieces_append whole hsome, hbefore, hlast,
    Text.trim_of_trimmed (trimmed_escape hfallback), unescape_escape, String.ofList_toList]
  show (do
    let branches ← (branches.map fun b : Branch => Text.trim (b.spelled gap)).mapM readPiece
    return Template.plural branches fallback) = _
  rw [mapM_readPiece hgap hwritable]
  rfl

end Plural

/-- Reading undoes writing.  The clusters may be any division of the spelled template in which each
    bar is alone; in particular they may be the ones that reading itself divides it into. -/
theorem Template.parse_spelled (gap : List Char) (branches : List Branch) (fallback : String)
    (hgap : ∀ c ∈ gap, Text.isBlank c = true) (hne : branches ≠ [])
    (hwritable : ∀ b ∈ branches, b.Writable) (hfallback : Text.Trimmed fallback.toList) :
    (∀ gs, gs.flatten = spelled gap branches fallback → Plural.Separate gs →
      Plural.readPieces (spelled gap branches fallback) (Plural.cut gs)
        = .ok (.plural branches fallback)) ∧
    ((∀ g ∈ Text.clusters (spelled gap branches fallback), '|' ∈ g → g = Plural.bar) →
      parse (String.ofList (spelled gap branches fallback)) = .ok (.plural branches fallback)) := by
  have hcut : ∀ gs, gs.flatten = spelled gap branches fallback → Plural.Separate gs →
      Plural.readPieces (spelled gap branches fallback) (Plural.cut gs)
        = .ok (.plural branches fallback) := by
    intro gs hflatten hgs
    -- no bar of a branch or of the fallback is a place to cut at
    have huncut : ∀ w ∈ branches.map (Branch.spelled gap) ++ [Plural.escape fallback.toList],
        Plural.Uncut w := by
      intro w hw
      rcases List.mem_append.1 hw with hw | hw
      · obtain ⟨b, hb, rfl⟩ := List.mem_map.1 hw
        exact Plural.uncut_spelled hgap (hwritable b hb)
      · rw [List.mem_singleton.1 hw]
        exact Plural.uncut_escape _
    have hpieces := Plural.trim_cut_intercalate (by simp) huncut
    refine Plural.readPieces_spelled hgap hne hwritable hfallback _ ?_
    rw [Plural.cut, Plural.cutAfter_singles hgs, hflatten]
    exact hpieces
  refine ⟨hcut, fun halone => ?_⟩
  rw [parse, String.toList_ofList]
  exact hcut _ (Text.flatten_clusters _) ⟨Plural.nil_not_mem_clusters _, halone⟩

/-- Bars at both ends of a text, an empty text, and texts that look like guards. -/
theorem Template.parse_spelled_barred :
    let branches : List Branch := [⟨.oneOf [0, -3], "|a||"⟩, ⟨.atMost (-5), ""⟩,
      ⟨.between 2 9007199254740991, "\x7b1\x7d | b"⟩]
    parse (String.ofList (spelled [' '] branches "|\x7b..\x7d"))
      = .ok (.plural branches "|\x7b..\x7d") := by
  intro branches
  have hwritable : ∀ b ∈ branches, b.Writable := by
    intro b hb
    simp only [branches, List.mem_cons, List.not_mem_nil, or_false] at hb
    rcases hb with rfl | rfl | rfl
    all_goals exact ⟨by decide, by decide, (Text.trim_eq_self_iff _).1 (by decide)⟩
  refine (parse_spelled [' '] branches _ Text.isBlank_of_mem_space (by decide) hwritable
    ((Text.trim_eq_self_iff _).1 (by decide))).2 ?_
  decide +kernel

end Phrasebook

import Phrasebook.Proofs.Plural.Literal

namespace Phrasebook

/-!
# Where templates are cut

A template is cut at the last bar of each run of odd length, unless the template ends with it.  The
runs are runs of clusters, so the statements hold for any division of the template into clusters.

* `Plural.BarSpan`: a run of bars among clusters, with what stands before and after it.
* `Plural.CutAt`: the places to cut at, from these runs; `Plural.cutAt_iff` decides them.
* `Plural.blocks`: the clusters between these places.
* `Plural.cut_eq_blocks`: a template is cut at these places and nowhere else.
* `Plural.cut_eq_singleton_iff`, `Plural.even_of_mem_blocks`: what is left uncut.
* `Template.cut_at_odd_runs`: the whole of it, and which templates are simple.
-/

namespace Plural

/-! ### Runs of bars -/

/-- Among clusters, `n` bars stand between `before` and `after`, and no other bar beside them. -/
structure BarSpan (gs before after : List (List Char)) (n : Nat) : Prop where
  eq : gs = before ++ List.replicate n bar ++ after
  pos : 0 < n
  start : before.getLast? ≠ some bar
  stop : after.head? ≠ some bar

/-- The cluster at a place is the last bar of a run of odd length, and not the last cluster. -/
def CutAt (gs : List (List Char)) (place : Nat) : Prop :=
  ∃ before after n, BarSpan gs before after n ∧ n % 2 = 1 ∧ after ≠ [] ∧
    before.length + n = place + 1

/-- The number of bars that clusters end with. -/
def barsAtEnd (gs : List (List Char)) : Nat :=
  (gs.reverse.takeWhile (· == bar)).length

/-- The bars at the end stand behind something that is none. -/
theorem exists_barsAtEnd (gs : List (List Char)) :
    ∃ before, gs = before ++ List.replicate (barsAtEnd gs) bar ∧ before.getLast? ≠ some bar := by
  have hbars : gs.reverse.takeWhile (· == bar) = List.replicate (barsAtEnd gs) bar := by
    refine List.eq_replicate_iff.2 ⟨rfl, fun g hg => ?_⟩
    exact beq_iff_eq.1 (List.all_eq_true.1 List.all_takeWhile g hg)
  refine ⟨(gs.reverse.dropWhile (· == bar)).reverse, ?_, ?_⟩
  · rw [← List.reverse_replicate, ← hbars, ← List.reverse_append, List.takeWhile_append_dropWhile,
      List.reverse_reverse]
  · intro hlast
    rw [List.getLast?_reverse] at hlast
    have hnot := List.head?_dropWhile_not (· == bar) gs.reverse
    rw [hlast] at hnot
    exact absurd hnot (by simp)

/-- So many bars behind something that is none. -/
theorem barsAtEnd_append {before : List (List Char)} (h : before.getLast? ≠ some bar) (n : Nat) :
    barsAtEnd (before ++ List.replicate n bar) = n := by
  have hbars : ∀ g ∈ List.replicate n bar, (g == bar) = true :=
    fun g hg => beq_iff_eq.2 (List.eq_of_mem_replicate hg)
  have hstop : before.reverse.takeWhile (· == bar) = [] := by
    rw [← List.head?_reverse] at h
    cases hrev : before.reverse with
    | nil => rfl
    | cons g gs =>
      rw [hrev] at h
      exact List.takeWhile_cons_of_neg (by simpa using h)
  rw [barsAtEnd, List.reverse_append, List.reverse_replicate, List.takeWhile_append_of_pos hbars,
    hstop, List.append_nil, List.length_replicate]

/-- One more bar at the end. -/
theorem barsAtEnd_concat_bar (gs : List (List Char)) :
    barsAtEnd (gs ++ [bar]) = barsAtEnd gs + 1 := by
  obtain ⟨before, hgs, hbefore⟩ := exists_barsAtEnd gs
  have hbars : gs ++ [bar] = before ++ List.replicate (barsAtEnd gs + 1) bar := by
    rw [List.replicate_succ', ← List.append_assoc, ← hgs]
  rw [hbars, barsAtEnd_append hbefore]

/-- Something else at the end. -/
theorem barsAtEnd_concat {g : List Char} (h : g ≠ bar) (gs : List (List Char)) :
    barsAtEnd (gs ++ [g]) = 0 := by
  have hlast : (gs ++ [g]).getLast? ≠ some bar := by simpa using h
  have hnone := barsAtEnd_append hlast 0
  rwa [List.replicate_zero, List.append_nil] at hnone

/-- What starts without a bar is not empty and starts with something else. -/
theorem startsPlain_iff {gs : List (List Char)} :
    startsPlain gs = true ↔ gs ≠ [] ∧ gs.head? ≠ some bar := by
  cases gs with
  | nil => simp [startsPlain]
  | cons g gs => simp [startsPlain]

/-- Whether to cut at a cluster is known from the bars that end at it and from what follows it. -/
theorem cutAt_length_iff (before : List (List Char)) (g : List Char) (after : List (List Char)) :
    CutAt (before ++ g :: after) before.length ↔
      g = bar ∧ startsPlain after = true ∧ (barsAtEnd before + 1) % 2 = 1 := by
  constructor
  · rintro ⟨front, back, n, hspan, hodd, hne, hplace⟩
    have heq : before ++ [g] ++ after = front ++ List.replicate n bar ++ back := by
      rw [← hspan.eq, List.append_assoc, List.singleton_append]
    obtain ⟨hfront, rfl⟩ := List.append_inj heq (by simp [hplace])
    -- the run is not empty, so its last bar is the cluster
    obtain ⟨k, rfl⟩ := Nat.exists_eq_add_of_lt hspan.pos
    rw [Nat.zero_add] at hfront hodd
    rw [List.replicate_succ', ← List.append_assoc] at hfront
    obtain ⟨rfl, hg⟩ := List.append_inj' hfront rfl
    refine ⟨(List.cons.inj hg).1, startsPlain_iff.2 ⟨hne, hspan.stop⟩, ?_⟩
    rw [barsAtEnd_append hspan.start]
    exact hodd
  · rintro ⟨rfl, hplain, hodd⟩
    obtain ⟨hne, hstop⟩ := startsPlain_iff.1 hplain
    obtain ⟨front, hbefore, hfront⟩ := exists_barsAtEnd before
    refine ⟨front, after, barsAtEnd before + 1, ⟨?_, Nat.succ_pos _, hfront, hstop⟩, hodd, hne, ?_⟩
    · rw [List.replicate_succ', ← List.append_assoc, ← hbefore, List.append_assoc]
      rfl
    · have hlength := congrArg List.length hbefore
      rw [List.length_append, List.length_replicate] at hlength
      omega

/-- A cut is made inside the text. -/
theorem CutAt.lt_length {gs : List (List Char)} {place : Nat} (h : CutAt gs place) :
    place < gs.length := by
  obtain ⟨before, after, n, hspan, -, -, hplace⟩ := h
  have hlength := congrArg List.length hspan.eq
  rw [List.length_append, List.length_append, List.length_replicate] at hlength
  omega

/-- Where cuts are made can be computed. -/
theorem cutAt_iff (gs : List (List Char)) (place : Nat) :
    CutAt gs place ↔ gs[place]? = some bar ∧ startsPlain (gs.drop (place + 1)) = true ∧
      (barsAtEnd (gs.take place) + 1) % 2 = 1 := by
  by_cases hplace : place < gs.length
  · have hsplit : gs = gs.take place ++ gs[place] :: gs.drop (place + 1) := by
      rw [← List.drop_eq_getElem_cons hplace, List.take_append_drop]
    have hlength : (gs.take place).length = place := List.length_take_of_le (Nat.le_of_lt hplace)
    have hiff := cutAt_length_iff (gs.take place) gs[place] (gs.drop (place + 1))
    rw [← hsplit, hlength] at hiff
    rw [hiff, List.getElem?_eq_getElem hplace, Option.some.injEq]
  · refine iff_of_false (fun h => hplace h.lt_length) ?_
    rintro ⟨hbar, -⟩
    rw [List.getElem?_eq_none (Nat.le_of_not_lt hplace)] at hbar
    exact absurd hbar (by simp)

instance (gs : List (List Char)) (place : Nat) : Decidable (CutAt gs place) :=
  decidable_of_iff _ (cutAt_iff gs place).symm

example : CutAt [['a'], bar, bar, bar, ['b']] 3 ∧ ¬ CutAt [['a'], bar, bar, bar] 3 := by
  decide

/-! ### Blocks -/

/-- Clusters cut into blocks at the places to cut at. -/
def blocks (gs : List (List Char)) : List (List (List Char)) :=
  (gs.zipIdx.splitOnP fun e => decide (CutAt gs e.2)).map (List.map Prod.fst)

/-- The cut goes through the clusters with the number of bars just passed, so the place of each
    cluster and what stands before it decide. -/
theorem cutAfter_eq (before gs : List (List Char)) :
    cutAfter (barsAtEnd before) gs
      = ((gs.zipIdx before.length).splitOnP fun e => decide (CutAt (before ++ gs) e.2)).map
          fun block => (block.map Prod.fst).flatten := by
  induction gs generalizing before with
  | nil => rfl
  | cons g gs ih =>
    have hiff := cutAt_length_iff before g gs
    have hrest := ih (before ++ [g])
    rw [List.append_assoc, List.singleton_append, List.length_append, List.length_singleton]
      at hrest
    -- a cluster that is not cut at is put in front of the first block of the rest
    have hfirst : ∀ bs : List (List (List Char × Nat)), bs ≠ [] →
        (bs.modifyHead (List.cons (g, before.length))).map
            (fun block => (block.map Prod.fst).flatten)
          = onFirst g (bs.map fun block => (block.map Prod.fst).flatten) := by
      intro bs hbs
      obtain ⟨b, bs, rfl⟩ := List.exists_cons_of_ne_nil hbs
      rfl
    rw [List.zipIdx_cons, List.splitOnP_cons_eq_if_modifyHead]
    by_cases hg : g = bar
    · subst hg
      rw [barsAtEnd_concat_bar] at hrest
      rw [cutAfter_bar]
      by_cases hcut : CutAt (before ++ bar :: gs) before.length
      · obtain ⟨-, hplain, hodd⟩ := hiff.1 hcut
        rw [if_pos (by simp [hplain, hodd]), if_pos (decide_eq_true hcut), hrest]
        rfl
      · have hnot : ¬ (startsPlain gs && (barsAtEnd before + 1) % 2 == 1) = true := by
          rw [Bool.and_eq_true, beq_iff_eq]
          exact fun h => hcut (hiff.2 ⟨rfl, h⟩)
        rw [if_neg hnot, if_neg (by simpa using hcut), hfirst _ (List.splitOnP_ne_nil _ _), hrest]
    · rw [barsAtEnd_concat hg] at hrest
      have hcut : ¬ CutAt (before ++ g :: gs) before.length := fun h => hg (hiff.1 h).1
      rw [cutAfter_plain hg, if_neg (by simpa using hcut), hfirst _ (List.splitOnP_ne_nil _ _),
        hrest]

/-- A template is cut at the places to cut at, and nowhere else. -/
theorem cut_eq_blocks (gs : List (List Char)) : cut gs = (blocks gs).map List.flatten := by
  have hcut := cutAfter_eq [] gs
  rw [blocks, List.map_map]
  exact hcut

/-! ### Templates that are not cut -/

/-- Each run of bars is even, but for one that the clusters end with. -/
def EvenInside (gs : List (List Char)) : Prop :=
  ∀ before after n, BarSpan gs before after n → after ≠ [] → n % 2 = 0

/-- A place to cut at parts the clusters into two. -/
theorem CutAt.two_le_length_blocks {gs : List (List Char)} {place : Nat} (h : CutAt gs place) :
    2 ≤ (blocks gs).length := by
  have hmem : (bar, place) ∈ gs.zipIdx :=
    List.mem_zipIdx_iff_getElem?.2 ((cutAt_iff gs place).1 h).1
  obtain ⟨before, after, hsplit⟩ := List.append_of_mem hmem
  have hparts := @List.splitOnP_append_cons _ (fun e => decide (CutAt gs e.2)) before after
    (bar, place) (decide_eq_true h)
  have hbefore := List.length_pos_of_ne_nil
    (List.splitOnP_ne_nil (fun e => decide (CutAt gs e.2)) before)
  have hafter := List.length_pos_of_ne_nil
    (List.splitOnP_ne_nil (fun e => decide (CutAt gs e.2)) after)
  rw [blocks, List.length_map, hsplit, hparts, List.length_append]
  omega

/-- A template stays in one piece if and only if each run of bars is even, but for one that the
    template ends with. -/
theorem cut_eq_singleton_iff (gs : List (List Char)) : cut gs = [gs.flatten] ↔ EvenInside gs := by
  constructor
  · intro hcut before after n hspan hne
    by_contra hodd
    have hplace : CutAt gs (before.length + n - 1) :=
      ⟨before, after, n, hspan, by omega, hne, by have := hspan.pos; omega⟩
    have htwo := hplace.two_le_length_blocks
    have hone := congrArg List.length hcut
    rw [cut_eq_blocks, List.length_map, List.length_singleton] at hone
    omega
  · intro heven
    have hnone : ∀ e ∈ gs.zipIdx, decide (CutAt gs e.2) = false := by
      rintro e -
      refine decide_eq_false ?_
      rintro ⟨before, after, n, hspan, hodd, hne, -⟩
      have := heven before after n hspan hne
      omega
    rw [cut_eq_blocks, blocks, List.splitOnP_eq_singleton hnone, List.map_singleton,
      List.zipIdx_map_fst, List.map_singleton]

/-- A template without bars has no run of them. -/
theorem cut_of_noBar {gs : List (List Char)} (h : '|' ∉ gs.flatten) : cut gs = [gs.flatten] := by
  refine (cut_eq_singleton_iff gs).2 fun before after n hspan _ => ?_
  obtain ⟨k, rfl⟩ := Nat.exists_eq_add_of_lt hspan.pos
  have hbar : bar ∈ gs := by
    rw [hspan.eq, List.replicate_succ]
    simp
  exact absurd (List.mem_flatten.2 ⟨bar, hbar, List.mem_singleton_self _⟩) h

/-! ### The blocks before the last -/

/-- A piece before the last stands between a separator, or the start, and another separator. -/
theorem exists_of_mem_dropLast_splitOnP {α : Type} {p : α → Bool} {xs block : List α}
    (h : block ∈ (xs.splitOnP p).dropLast) :
    ∃ before x after, xs = before ++ block ++ x :: after ∧ p x = true ∧
      (∀ y ∈ block, p y = false) ∧ ∀ y, before.getLast? = some y → p y = true := by
  induction hn : xs.length using Nat.strong_induction_on generalizing xs with
  | _ n ih =>
    cases hfind : xs.find? p with
    | none =>
      rw [List.splitOnP_eq_singleton (by simpa using List.find?_eq_none.1 hfind)] at h
      exact absurd h (by simp)
    | some x =>
      -- the first separator ends the first piece
      obtain ⟨hx, first, rest, rfl, hfirst⟩ := List.find?_eq_some_iff_append.1 hfind
      have hfirst : ∀ y ∈ first, p y = false := by simpa using hfirst
      rw [List.splitOnP_append_cons_of_forall_mem hfirst x hx,
        List.dropLast_cons_of_ne_nil (List.splitOnP_ne_nil _ _), List.mem_cons] at h
      rcases h with rfl | h
      · exact ⟨[], x, rest, by simp, hx, hfirst, by simp⟩
      · obtain ⟨before, y, after, rfl, hy, hblock, hbefore⟩ :=
          ih rest.length (by rw [← hn, List.length_append, List.length_cons]; omega) h rfl
        refine ⟨first ++ x :: before, y, after, by simp, hy, hblock, fun z hz => ?_⟩
        cases before with
        | nil =>
          have hzx : x = z := by simpa using hz
          exact hzx ▸ hx
        | cons b before => exact hbefore z (by simpa [List.getLast?_append] using hz)

/-- Each cluster comes with its place. -/
theorem snd_of_getElem?_zipIdx {gs : List (List Char)} {place : Nat} {e : List Char × Nat}
    (h : gs.zipIdx[place]? = some e) : e.2 = place := by
  rw [List.getElem?_zipIdx] at h
  obtain ⟨g, -, rfl⟩ := Option.map_eq_some_iff.1 h
  exact Nat.zero_add place

/-- A block before the last stands between two places to cut at, or the start and the first one. -/
theorem exists_of_mem_dropLast_blocks {gs block : List (List Char)}
    (h : block ∈ (blocks gs).dropLast) :
    ∃ before after, gs = before ++ block ++ bar :: after ∧
      CutAt gs (before ++ block).length ∧
      (∀ place, before.length ≤ place → place < (before ++ block).length → ¬ CutAt gs place) ∧
      (before ≠ [] → CutAt gs (before.length - 1)) := by
  rw [blocks, ← List.map_dropLast] at h
  obtain ⟨eblock, hmem, rfl⟩ := List.mem_map.1 h
  -- blocks are split with their places, so that cuts can be told by place
  obtain ⟨ebefore, e, eafter, hzip, he, hblock, hbefore⟩ := exists_of_mem_dropLast_splitOnP hmem
  have hgs : gs = ebefore.map Prod.fst ++ eblock.map Prod.fst ++ e.1 :: eafter.map Prod.fst := by
    rw [← List.map_append, ← List.map_cons, ← List.map_append, ← hzip, List.zipIdx_map_fst]
  have hplace : CutAt gs (ebefore.map Prod.fst ++ eblock.map Prod.fst).length := by
    have hget : gs.zipIdx[(ebefore ++ eblock).length]? = some e := by rw [hzip]; simp
    rw [← List.map_append, List.length_map, ← snd_of_getElem?_zipIdx hget]
    exact of_decide_eq_true he
  -- a cut is made at a bar
  have hbar : e.1 = bar := by
    rw [hgs] at hplace
    exact ((cutAt_length_iff _ _ _).1 hplace).1
  refine ⟨ebefore.map Prod.fst, eafter.map Prod.fst, hbar ▸ hgs, hplace, ?_, ?_⟩
  -- inside the block there is no cut
  · intro place hlow hhigh
    rw [List.length_map] at hlow
    rw [← List.map_append, List.length_map, List.length_append] at hhigh
    have hlt : place - ebefore.length < eblock.length := by omega
    have hget : gs.zipIdx[place]? = some eblock[place - ebefore.length] := by
      rw [hzip, List.append_assoc, List.getElem?_append_right hlow, List.getElem?_append_left hlt,
        List.getElem?_eq_getElem hlt]
    rw [← snd_of_getElem?_zipIdx hget]
    exact of_decide_eq_false (hblock _ (List.getElem_mem hlt))
  -- and where something stands before it, the last of that is a cut
  · intro hne
    obtain ⟨front, last, rfl⟩ : ∃ front last, ebefore = front ++ [last] :=
      ⟨_, _, (List.dropLast_append_getLast (mt (congrArg (List.map Prod.fst)) hne)).symm⟩
    have hget : gs.zipIdx[front.length]? = some last := by rw [hzip]; simp
    rw [List.length_map, List.length_append, List.length_singleton, Nat.add_sub_cancel,
      ← snd_of_getElem?_zipIdx hget]
    exact of_decide_eq_true (hbefore last (by simp))

/-- Every block but the last has runs of even length only. -/
theorem even_of_mem_blocks {gs block : List (List Char)} (h : block ∈ (blocks gs).dropLast)
    {before after : List (List Char)} {n : Nat} (hspan : BarSpan block before after n) :
    n % 2 = 0 := by
  obtain ⟨front, back, hgs, hcut, hinside, hfront⟩ := exists_of_mem_dropLast_blocks h
  have hpos := hspan.pos
  -- a cut right before the block would have to be followed by something other than a bar
  have hstart : (front ++ before).getLast? ≠ some bar := by
    rw [List.getLast?_append]
    cases hbefore : before.getLast? with
    | some g =>
      show some g ≠ some bar
      rw [← hbefore]
      exact hspan.start
    | none =>
      rw [List.getLast?_eq_none_iff.1 hbefore] at hspan
      intro hlast
      obtain ⟨init, hinit⟩ := List.getLast?_eq_some_iff.1 hlast
      have hprevious := hfront (by rw [hinit]; simp)
      have hsplit : gs = init ++ bar :: (block ++ bar :: back) := by
        rw [hgs, hinit]
        simp
      have hlength : front.length - 1 = init.length := by rw [hinit]; simp
      rw [hlength, hsplit, cutAt_length_iff, startsPlain_iff] at hprevious
      refine hprevious.2.1.2 ?_
      obtain ⟨k, rfl⟩ := Nat.exists_eq_add_of_lt hpos
      rw [hspan.eq, List.replicate_succ]
      rfl
  by_cases hafter : after = []
  · -- the bar that the template is cut at ends the same run
    subst hafter
    rw [hgs, cutAt_length_iff, hspan.eq, List.append_nil, ← List.append_assoc,
      barsAtEnd_append hstart] at hcut
    omega
  · -- an odd run would be cut at
    by_contra hodd
    have hstop : (after ++ bar :: back).head? ≠ some bar := by
      rw [List.head?_append_of_ne_nil _ hafter]
      exact hspan.stop
    have hlength := congrArg List.length hspan.eq
    have hpast := List.length_pos_of_ne_nil hafter
    rw [List.length_append, List.length_append, List.length_replicate] at hlength
    refine hinside ((front ++ before).length + n - 1) ?_ ?_
      ⟨front ++ before, after ++ bar :: back, n, ⟨?_, hpos, hstart, hstop⟩, by omega, by simp, ?_⟩
    · rw [List.length_append]
      omega
    · rw [List.length_append, List.length_append]
      omega
    · rw [hgs, hspan.eq]
      simp
    · omega

/-! ### Simple templates -/

/-- One piece is a simple template, and several pieces never are. -/
theorem readPieces_eq_simple_iff (whole : List Char) {ps : List (List Char)} (hne : ps ≠ [])
    (text : String) :
    readPieces whole ps = .ok (.simple text) ↔
      ps.length = 1 ∧ text = String.ofList (unescape whole) := by
  obtain ⟨last, before, rfl⟩ : ∃ last before, ps = before ++ [last] :=
    ⟨_, _, (List.dropLast_append_getLast hne).symm⟩
  by_cases hbefore : before = []
  · subst hbefore
    show Except.ok (Template.simple (String.ofList (unescape whole))) = _ ↔ _
    simp [eq_comm]
  · have hlength := List.length_pos_of_ne_nil hbefore
    rw [readPieces_append whole hbefore]
    refine iff_of_false ?_ (fun h => absurd h.1 (by simp; omega))
    cases (before.map Text.trim).mapM readPiece with
    | ok branches => exact fun h => nomatch h
    | error f => exact fun h => nomatch h

/-- A template is a plain text just where all its runs of bars inside are even. -/
theorem readPieces_cut_eq_simple_iff (gs : List (List Char)) (text : String) :
    readPieces gs.flatten (cut gs) = .ok (.simple text) ↔
      EvenInside gs ∧ text = String.ofList (unescape gs.flatten) := by
  have hne : cut gs ≠ [] := cutAfter_ne_nil 0 gs
  rw [readPieces_eq_simple_iff _ hne, ← cut_eq_singleton_iff]
  refine and_congr_left fun _ => ⟨fun hlength => ?_, fun hcut => by rw [hcut]; rfl⟩
  obtain ⟨piece, hpiece⟩ := List.length_eq_one_iff.1 hlength
  have hjoin := intercalate_cutAfter 0 gs
  rw [show cutAfter 0 gs = [piece] from hpiece, List.intercalate_singleton] at hjoin
  rw [hpiece, hjoin]

end Plural

/-- Joining the pieces gives the template back.  A template is cut at the last bar of each run of
    odd length that does not end it, and nowhere else: so it is simple if it has no such run, and
    only its last piece can have runs of odd length.  Leaving a template without bars as it is makes
    no difference. -/
theorem Template.cut_at_odd_runs (gs : List (List Char)) :
    Plural.bar.intercalate (Plural.cut gs) = gs.flatten ∧
    Plural.cut gs = (Plural.blocks gs).map List.flatten ∧
    (∀ text, Plural.readPieces gs.flatten (Plural.cut gs) = .ok (.simple text) ↔
      Plural.EvenInside gs ∧ text = String.ofList (Plural.unescape gs.flatten)) ∧
    (∀ source text, parse source = .ok (.simple text) ↔
      Plural.EvenInside (Text.clusters source.toList) ∧
        text = String.ofList (Plural.unescape source.toList)) ∧
    (∀ block ∈ (Plural.blocks gs).dropLast, ∀ before after n,
      Plural.BarSpan block before after n → n % 2 = 0) ∧
    (if '|' ∈ gs.flatten then Plural.cut gs else [gs.flatten]) = Plural.cut gs := by
  refine ⟨Plural.intercalate_cutAfter 0 gs, Plural.cut_eq_blocks gs,
    Plural.readPieces_cut_eq_simple_iff gs, fun source text => ?_,
    fun block hblock _ _ _ => Plural.even_of_mem_blocks hblock, ?_⟩
  · have hiff := Plural.readPieces_cut_eq_simple_iff (Text.clusters source.toList) text
    rwa [Text.flatten_clusters] at hiff
  · split
    · rfl
    · next hbar => exact (Plural.cut_of_noBar hbar).symm

end Phrasebook

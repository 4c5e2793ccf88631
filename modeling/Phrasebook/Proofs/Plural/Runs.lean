import Phrasebook.Proofs.Plural.Bars

namespace Phrasebook

/-!
# Runs of bars

How many pieces a text with doubled bars is cut into.  A bar may share its cluster with the
character before it or with the mark after it, and such a bar does not count for the run it stands
in; a doubled bar is only safe where both ends of its run lose a bar or neither does.

* `Text.takesNext`, `Text.leansBack`: the characters that share a cluster with a bar beside them.
* `BarRun`: a run of bars in a text, with what stands before and after it.
* `LevelBars`: every run that something follows shares a bar on both of its sides or on neither.
* `length_cutAfter_bars`: a run of bars makes one more piece if it is odd and something follows.
* `length_pieces_doubled_iff`: a text with doubled bars is one piece if and only if its bars are
  level.
-/

/-! ### Clusters beside a bar -/

namespace Text

/-- Whether the last character of a text takes a bar after it into its cluster. -/
def takesNext (s : List Char) : Bool :=
  s.getLast?.any fun c => classOf c == .prepend

/-- Whether the first character of a text belongs to the cluster of a bar before it. -/
def leansBack (s : List Char) : Bool :=
  s.head?.any fun c => joins (.single .other) (classOf c)

/-- A bar is one of the other characters. -/
theorem classOf_bar : classOf '|' = .other := rfl

/-- The last class of an ending is the one added. -/
@[simp] theorem last_push (e : Ending) (k : Class) : (e.push k).last = k := by
  cases k <;> rfl

/-- A bar joins what ends with a character that takes the next one, and nothing else. -/
theorem joins_other (e : Ending) : joins e .other = (e.last == .prepend) := by
  obtain ⟨k, _, _, _, _⟩ := e
  cases k <;> rfl

/-- The cut of a text goes on as if a control character stood before it. -/
theorem clusters_eq_clustersAfter (s : List Char) :
    clusters s = (clustersAfter (.single .control) s).2 := by
  cases s with
  | nil => rfl
  | cons c s =>
    have hjoin : ∀ k, joins (.single .control) k = false := fun k => by cases k <;> rfl
    rw [clusters, clustersAfter, if_neg (by simp [hjoin])]

/-- A bar that joins what is before it leaves the cut after it as it would be after a bar. -/
theorem clustersAfter_bar_of_joins {e : Ending} (h : e.last = .prepend) (s : List Char) :
    (clustersAfter e ('|' :: s)).2 = (clustersAfter (.single .other) s).2 := by
  rw [clustersAfter, classOf_bar, joins_other, if_pos (beq_iff_eq.2 h)]
  rfl

/-- A bar that does not join what is before it starts a cluster. -/
theorem clustersAfter_bar {e : Ending} (h : e.last ≠ .prepend) (s : List Char) :
    clustersAfter e ('|' :: s)
      = ([], ('|' :: (clustersAfter (.single .other) s).1)
          :: (clustersAfter (.single .other) s).2) := by
  rw [clustersAfter, classOf_bar, joins_other, if_neg (by simpa using h)]

/-- All bars of a run but the last one are clusters of their own. -/
theorem clustersAfter_bars {e : Ending} (h : e.last ≠ .prepend) (n : Nat) (s : List Char) :
    (clustersAfter e (List.replicate (n + 1) '|' ++ s)).2
      = List.replicate n Plural.bar
        ++ ('|' :: (clustersAfter (.single .other) s).1)
          :: (clustersAfter (.single .other) s).2 := by
  induction n generalizing e with
  | zero => rw [List.replicate_one, List.singleton_append, clustersAfter_bar h]; rfl
  | succ n ih =>
    have hother : (Ending.single .other).last ≠ .prepend := by decide
    rw [List.replicate_succ, List.cons_append, clustersAfter_bar h, ih hother]
    -- the bars after the first one share nothing with it
    have hnone : (clustersAfter (.single .other) (List.replicate (n + 1) '|' ++ s)).1 = [] := rfl
    rw [hnone]
    rfl

/-- Whatever belongs to which cluster, the cut goes on after a character as that one ends. -/
theorem exists_clustersAfter_cons (e : Ending) (c : Char) (s : List Char) :
    ∃ e' : Ending, e'.last = classOf c ∧
      ((clustersAfter e (c :: s)).2 = (clustersAfter e' s).2 ∨
        ∃ g, (clustersAfter e (c :: s)).2 = (c :: g) :: (clustersAfter e' s).2) := by
  by_cases h : joins e (classOf c) = true
  · exact ⟨e.push (classOf c), last_push e _, Or.inl (by rw [clustersAfter, if_pos h])⟩
  · exact ⟨.single (classOf c), rfl, Or.inr ⟨_, by rw [clustersAfter, if_neg h]⟩⟩

/-- What belongs to the cluster of a bar is there just if the text after the bar leans back. -/
theorem clustersAfter_fst_eq_nil_iff (s : List Char) :
    (clustersAfter (.single .other) s).1 = [] ↔ leansBack s = false := by
  cases s with
  | nil => exact iff_of_true rfl rfl
  | cons c s =>
    rw [clustersAfter]
    cases h : joins (.single .other) (classOf c) <;> simp [leansBack, h]

/-- The first cluster after a text that does not lean back starts as the text does. -/
theorem clustersAfter_snd_head? (e : Ending) (s : List Char) (h : (clustersAfter e s).1 = []) :
    (clustersAfter e s).2.head?.map List.head? = s.head?.map some := by
  cases s with
  | nil => rfl
  | cons c s =>
    rw [clustersAfter] at h ⊢
    split at h
    · exact absurd h (by simp)
    · next hjoin => rw [if_neg hjoin]; rfl

end Text

namespace Plural

/-! ### Counting pieces -/

/-- A text put before the first piece makes no further piece. -/
theorem length_onFirst {ps : List (List Char)} (h : ps ≠ []) (g : List Char) :
    (onFirst g ps).length = ps.length := by
  cases ps with
  | nil => exact absurd rfl h
  | cons p ps => rfl

/-- A cluster that is no bar makes no further piece. -/
theorem length_cutAfter_plain {g : List Char} (h : g ≠ bar) (run : Nat) (gs : List (List Char)) :
    (cutAfter run (g :: gs)).length = (cutAfter 0 gs).length := by
  rw [cutAfter_plain h, length_onFirst (cutAfter_ne_nil 0 gs)]

/-- Bars before anything but a bar make one more piece if they are odd in number and something
    follows them. -/
theorem length_cutAfter_bars (k run : Nat) {gs : List (List Char)} (h : gs.head? ≠ some bar) :
    (cutAfter run (List.replicate k bar ++ gs)).length
      = (cutAfter 0 gs).length + if k ≠ 0 ∧ gs ≠ [] ∧ (run + k) % 2 = 1 then 1 else 0 := by
  induction k generalizing run with
  | zero => simp [cutAfter_of_head h]
  | succ k ih =>
    rw [List.replicate_succ, List.cons_append, cutAfter_bar]
    cases k with
    | zero =>
      -- the last bar of the run decides
      cases gs with
      | nil => simp [cutAfter, onFirst, startsPlain]
      | cons g gs =>
        have hg : g ≠ bar := by simpa using h
        have hplain : startsPlain (g :: gs) = true := bne_iff_ne.2 hg
        have hrest : cutAfter (run + 1) (g :: gs) = cutAfter 0 (g :: gs) := cutAfter_of_head h _
        rw [List.replicate_zero, List.nil_append, hplain, hrest, Bool.true_and]
        by_cases hodd : (run + 1) % 2 = 1
        · simp [hodd]
        · simp [hodd, length_onFirst (cutAfter_ne_nil 0 _)]
    | succ k =>
      -- another bar follows
      have hbar : startsPlain (List.replicate (k + 1) bar ++ gs) = false := by
        simp [List.replicate_succ, startsPlain]
      have hsum : run + 1 + (k + 1) = run + (k + 1 + 1) := by omega
      rw [hbar, Bool.false_and, if_neg Bool.false_ne_true, length_onFirst (cutAfter_ne_nil _ _),
        ih, hsum]
      simp

/-! ### Runs -/

/-- In the text `s`, `n + 1` bars stand between `before` and `after`, and no other bar beside
    them. -/
structure BarRun (s before after : List Char) (n : Nat) : Prop where
  eq : s = before ++ List.replicate (n + 1) '|' ++ after
  start : before.getLast? ≠ some '|'
  stop : after.head? ≠ some '|'

/-- After the text `p`, every run of bars that something follows shares a bar on both of its sides
    or on neither. -/
def LevelAfter (p s : List Char) : Prop :=
  ∀ before after n, BarRun s before after n → after ≠ [] →
    Text.takesNext (p ++ before) = Text.leansBack after

/-- Every run of bars that something follows shares a bar on both of its sides or on neither. -/
def LevelBars (s : List Char) : Prop :=
  ∀ before after n, BarRun s before after n → after ≠ [] →
    Text.takesNext before = Text.leansBack after

theorem levelAfter_nil (p : List Char) : LevelAfter p [] := by
  intro before after n hrun
  have h : [] = before ++ List.replicate (n + 1) '|' ++ after := hrun.eq
  exact absurd h.symm (by simp)

/-- A character that is no bar may be seen as one that stands before the text. -/
theorem levelAfter_cons {c : Char} (hc : c ≠ '|') (p s : List Char) :
    LevelAfter p (c :: s) ↔ LevelAfter (p ++ [c]) s := by
  constructor
  · intro h before after n hrun hafter
    have hrun' : BarRun (c :: s) (c :: before) after n := by
      refine ⟨by rw [hrun.eq]; rfl, ?_, hrun.stop⟩
      cases before with
      | nil => simpa using hc
      | cons d before => simpa [List.getLast?_cons_cons] using hrun.start
    have hlevel := h (c :: before) after n hrun' hafter
    rwa [List.append_cons] at hlevel
  · intro h before after n hrun hafter
    cases before with
    | nil => exact absurd (List.cons.inj hrun.eq).1 hc
    | cons d before =>
      obtain ⟨rfl, hs⟩ := List.cons.inj hrun.eq
      have hrun' : BarRun s before after n := by
        refine ⟨hs, ?_, hrun.stop⟩
        cases before with
        | nil => simp
        | cons d' before => simpa [List.getLast?_cons_cons] using hrun.start
      have hlevel := h before after n hrun' hafter
      rwa [List.append_cons]

/-- Two runs of bars at the start of the same text are the same. -/
theorem replicate_append_inj {m n : Nat} {s t : List Char} (hs : s.head? ≠ some '|')
    (ht : t.head? ≠ some '|') (h : List.replicate m '|' ++ s = List.replicate n '|' ++ t) :
    m = n ∧ s = t := by
  induction m generalizing n with
  | zero =>
    cases n with
    | zero => exact ⟨rfl, by simpa using h⟩
    | succ n => exact absurd (by simpa [List.replicate_succ] using congrArg List.head? h) hs
  | succ m ih =>
    cases n with
    | zero => exact absurd (by simpa [List.replicate_succ] using (congrArg List.head? h).symm) ht
    | succ n =>
      obtain ⟨hmn, hst⟩ := ih (List.cons.inj h).2
      exact ⟨congrArg (· + 1) hmn, hst⟩

/-- A text that starts with a bar starts with a run of bars. -/
theorem exists_bars (s : List Char) :
    ∃ n t, '|' :: s = List.replicate (n + 1) '|' ++ t ∧ t.head? ≠ some '|' := by
  induction s with
  | nil => exact ⟨0, [], rfl, by simp⟩
  | cons c s ih =>
    by_cases hc : c = '|'
    · obtain ⟨n, t, hs, ht⟩ := ih
      exact ⟨n + 1, t, by rw [hc, hs]; rfl, ht⟩
    · exact ⟨0, c :: s, rfl, by simpa using hc⟩

/-- The runs of a text that starts with one are that one and the runs of the rest. -/
theorem barRun_bars {n : Nat} {t before after : List Char} {m : Nat} (ht : t.head? ≠ some '|')
    (h : BarRun (List.replicate (n + 1) '|' ++ t) before after m) :
    (before = [] ∧ after = t) ∨
      ∃ between, before = List.replicate (n + 1) '|' ++ between ∧ BarRun t between after m := by
  have heq : List.replicate (n + 1) '|' ++ t
      = before ++ (List.replicate (m + 1) '|' ++ after) := by
    rw [h.eq, List.append_assoc]
  rcases List.append_eq_append_iff.1 heq with ⟨between, hbefore, hrest⟩ | ⟨bars, hbars, hrest⟩
  · refine Or.inr ⟨between, hbefore, by rw [hrest, List.append_assoc], ?_, h.stop⟩
    intro hlast
    refine h.start ?_
    rw [hbefore, List.getLast?_append, hlast]
    rfl
  · -- what stands before the run holds bars only, so nothing does
    have hnil : before = [] := by
      rcases List.eq_nil_or_concat before with hnil | ⟨u, c, rfl⟩
      · exact hnil
      · have hc : c ∈ List.replicate (n + 1) '|' := by rw [hbars]; simp
        rw [List.eq_of_mem_replicate hc] at h
        exact absurd (by simp) h.start
    rw [hnil, List.nil_append] at heq
    exact Or.inl ⟨hnil, (replicate_append_inj ht h.stop heq).2.symm⟩

/-- A text that starts with a run of bars is level if the run is and the rest is. -/
theorem levelAfter_bars {n : Nat} {t : List Char} (ht : t.head? ≠ some '|') (p : List Char) :
    LevelAfter p (List.replicate (n + 1) '|' ++ t) ↔
      (t ≠ [] → Text.takesNext p = Text.leansBack t) ∧
        LevelAfter (p ++ List.replicate (n + 1) '|') t := by
  constructor
  · intro h
    refine ⟨fun hne => ?_, fun between after m hrun hafter => ?_⟩
    · have hlevel := h [] t n ⟨by simp, by simp, ht⟩ hne
      rwa [List.append_nil] at hlevel
    · have hbetween : between ≠ [] := by
        rintro rfl
        exact ht (by rw [hrun.eq]; rfl)
      have hstart : (List.replicate (n + 1) '|' ++ between).getLast? ≠ some '|' := by
        rw [List.getLast?_append, Option.or_of_isSome (by simpa using hbetween)]
        exact hrun.start
      have hlevel := h (List.replicate (n + 1) '|' ++ between) after m
        ⟨by rw [hrun.eq]; simp, hstart, hrun.stop⟩ hafter
      rwa [← List.append_assoc] at hlevel
  · rintro ⟨hfirst, hrest⟩ before after m hrun hafter
    rcases barRun_bars ht hrun with ⟨rfl, rfl⟩ | ⟨between, rfl, hlater⟩
    · rw [List.append_nil]
      exact hfirst hafter
    · rw [← List.append_assoc]
      exact hrest between after m hlater hafter

/-! ### Doubled characters -/

/-- A text with each character of a kind doubled. -/
def doubled (p : Char → Bool) (s : List Char) : List Char :=
  s.flatMap fun c => if p c then [c, c] else [c]

@[simp] theorem doubled_nil (p : Char → Bool) : doubled p [] = [] := rfl

theorem doubled_cons (p : Char → Bool) (c : Char) (s : List Char) :
    doubled p (c :: s) = (if p c then [c, c] else [c]) ++ doubled p s := rfl

theorem doubled_append (p : Char → Bool) (s t : List Char) :
    doubled p (s ++ t) = doubled p s ++ doubled p t :=
  List.flatMap_append

/-- Doubling leaves the first character. -/
theorem head?_doubled (p : Char → Bool) (s : List Char) : (doubled p s).head? = s.head? := by
  cases s with
  | nil => rfl
  | cons c s =>
    rw [doubled_cons]
    split <;> rfl

/-- Only an empty text is doubled to nothing. -/
theorem doubled_eq_nil_iff (p : Char → Bool) (s : List Char) : doubled p s = [] ↔ s = [] := by
  rw [← List.head?_eq_none_iff, head?_doubled, List.head?_eq_none_iff]

/-- Doubling makes runs of even length. -/
theorem doubled_replicate {p : Char → Bool} {c : Char} (hc : p c = true) (n : Nat) :
    doubled p (List.replicate (n + 1) c) = List.replicate (2 * n + 1 + 1) c := by
  induction n with
  | zero => simp [doubled, hc]
  | succ n ih =>
    have htwo : 2 * (n + 1) + 1 + 1 = 2 * n + 1 + 1 + 1 + 1 := by omega
    rw [List.replicate_succ, doubled_cons, if_pos hc, ih, htwo]
    rfl

/-! ### The pieces of a text with doubled bars -/

variable {p : Char → Bool}

/-- A character that is no bar makes no piece. -/
theorem exists_length_cons {c : Char} (hc : c ≠ '|') (e : Text.Ending) (s : List Char) :
    ∃ e' : Text.Ending, e'.last = Text.classOf c ∧
      (cutAfter 0 (Text.clustersAfter e (c :: s)).2).length
        = (cutAfter 0 (Text.clustersAfter e' s).2).length := by
  obtain ⟨e', hlast, hjoined | ⟨g, hown⟩⟩ := Text.exists_clustersAfter_cons e c s
  · exact ⟨e', hlast, by rw [hjoined]⟩
  · have hg : c :: g ≠ bar := fun h => hc (List.cons.inj h).1
    exact ⟨e', hlast, by rw [hown, length_cutAfter_plain hg]⟩

/-- Nor does it if it is doubled. -/
theorem exists_length_doubled_cons {c : Char} (hc : c ≠ '|') (e : Text.Ending) (s : List Char) :
    ∃ e' : Text.Ending, e'.last = Text.classOf c ∧
      (cutAfter 0 (Text.clustersAfter e (doubled p (c :: s))).2).length
        = (cutAfter 0 (Text.clustersAfter e' (doubled p s)).2).length := by
  rw [doubled_cons]
  split
  · obtain ⟨e₁, -, hfirst⟩ := exists_length_cons hc e (c :: doubled p s)
    obtain ⟨e₂, hlast, hsecond⟩ := exists_length_cons hc e₁ (doubled p s)
    exact ⟨e₂, hlast, hfirst.trans hsecond⟩
  · exact exists_length_cons hc e (doubled p s)

/-- An even run of bars makes a piece if something follows it and just one of its ends loses a bar
    to a neighbour. -/
theorem length_cutAfter_evenBars (n : Nat) (e : Text.Ending) {t : List Char}
    (ht : t.head? ≠ some '|') :
    (cutAfter 0 (Text.clustersAfter e (List.replicate (2 * n + 1 + 1) '|' ++ t)).2).length
      = (cutAfter 0 (Text.clustersAfter (.single .other) t).2).length
        + if t ≠ [] ∧ (e.last == .prepend) ≠ Text.leansBack t then 1 else 0 := by
  have hother : (Text.Ending.single .other).last ≠ .prepend := by decide
  -- the bars before the last one, of which the character before them may take one
  obtain ⟨k, hk, hclusters⟩ : ∃ k, k % 2 = (if e.last = .prepend then 0 else 1) ∧
      (Text.clustersAfter e (List.replicate (2 * n + 1 + 1) '|' ++ t)).2
        = List.replicate k bar ++ ('|' :: (Text.clustersAfter (.single .other) t).1)
          :: (Text.clustersAfter (.single .other) t).2 := by
    by_cases he : e.last = .prepend
    · refine ⟨2 * n, by simp [he], ?_⟩
      rw [List.replicate_succ, List.cons_append, Text.clustersAfter_bar_of_joins he,
        Text.clustersAfter_bars hother]
    · refine ⟨2 * n + 1, by simp [he], ?_⟩
      rw [Text.clustersAfter_bars he]
  have hodd : (e.last == .prepend) = true ↔ k % 2 = 0 := by
    rw [beq_iff_eq, hk]
    split <;> simp_all
  rw [hclusters]
  by_cases hlean : Text.leansBack t = true
  · -- the text takes the last bar
    have hne : t ≠ [] := by rintro rfl; exact absurd hlean (by decide)
    have hmore : (Text.clustersAfter (.single .other) t).1 ≠ [] := by
      rw [ne_eq, Text.clustersAfter_fst_eq_nil_iff, hlean]
      decide
    have hlast : '|' :: (Text.clustersAfter (.single .other) t).1 ≠ bar :=
      fun h => hmore (List.cons.inj h).2
    rw [length_cutAfter_bars k 0 (by simpa using hlast), length_cutAfter_plain hlast, hlean]
    refine congrArg _ (ite_congr (propext ?_) (fun _ => rfl) fun _ => rfl)
    simp only [ne_eq, hne, hodd, not_false_eq_true, true_and, reduceCtorEq]
    omega
  · -- the last bar stands alone, and the text goes on with a cluster of its own
    have hlean' : Text.leansBack t = false := by simpa using hlean
    have hnone : (Text.clustersAfter (.single .other) t).1 = [] :=
      (Text.clustersAfter_fst_eq_nil_iff t).2 hlean'
    have hhead := Text.clustersAfter_snd_head? (.single .other) t hnone
    have hstop : (Text.clustersAfter (.single .other) t).2.head? ≠ some bar := by
      intro h
      rw [h] at hhead
      cases t with
      | nil => exact absurd hhead (by simp)
      | cons c t => exact ht (by simpa [bar] using hhead.symm)
    have hempty : (Text.clustersAfter (.single .other) t).2 = [] ↔ t = [] := by
      rw [← List.head?_eq_none_iff, ← Option.map_eq_none_iff (f := List.head?), hhead]
      simp
    have hbars : List.replicate k bar ++ ['|'] :: (Text.clustersAfter (.single .other) t).2
        = List.replicate (k + 1) bar ++ (Text.clustersAfter (.single .other) t).2 := by
      rw [List.replicate_succ', List.append_assoc]
      rfl
    rw [hnone, hbars, length_cutAfter_bars (k + 1) 0 hstop, hlean']
    refine congrArg _ (ite_congr (propext ?_) (fun _ => rfl) fun _ => rfl)
    by_cases hne : t = []
    · exact iff_of_false (fun h => h.2.1 (hempty.2 hne)) fun h => h.1 hne
    · simp only [ne_eq, hempty, hne, Bool.not_eq_false, hodd, not_false_eq_true, true_and]
      omega

/-- The pieces of a text with doubled bars, seen from the text before it. -/
theorem length_cutAfter_doubled_iff (hp : p '|' = true) (before s : List Char) (e : Text.Ending)
    (he : (e.last == .prepend) = Text.takesNext before) :
    (cutAfter 0 (Text.clustersAfter e (doubled p s)).2).length = 1 ↔ LevelAfter before s := by
  -- induction on the length, since a run of bars is read off as a whole
  induction hn : s.length using Nat.strongRecOn generalizing before s e with
  | ind n ih =>
    cases s with
    | nil => exact iff_of_true rfl (levelAfter_nil before)
    | cons c s =>
      by_cases hc : c = '|'
      · subst hc
        obtain ⟨m, t, hs, ht⟩ : ∃ m t, '|' :: s = List.replicate (m + 1) '|' ++ t ∧
            t.head? ≠ some '|' := exists_bars s
        have hlt : t.length < n := by
          rw [← hn, hs, List.length_append, List.length_replicate]
          omega
        have hafter : Text.takesNext (before ++ List.replicate (m + 1) '|') = false := by
          rw [List.replicate_succ', ← List.append_assoc, Text.takesNext, List.getLast?_concat]
          rfl
        have hrest := ih t.length hlt (before ++ List.replicate (m + 1) '|') t (.single .other)
          hafter.symm rfl
        have ht' : (doubled p t).head? ≠ some '|' := by rwa [head?_doubled]
        have hlean : Text.leansBack (doubled p t) = Text.leansBack t := by
          rw [Text.leansBack, Text.leansBack, head?_doubled]
        have hpos : (cutAfter 0 (Text.clustersAfter (.single .other) (doubled p t)).2).length ≠ 0 :=
          fun h => cutAfter_ne_nil 0 _ (List.length_eq_zero_iff.1 h)
        rw [hs, doubled_append, doubled_replicate hp, length_cutAfter_evenBars m e ht', hlean, he,
          levelAfter_bars ht, ← hrest]
        simp only [ne_eq, doubled_eq_nil_iff]
        split
        · next h => exact iff_of_false (by omega) fun h' => h.2 (h'.1 h.1)
        · next h =>
          rw [Nat.add_zero, iff_and_self]
          intro _ hne
          exact Decidable.not_not.1 fun hne' => h ⟨hne, hne'⟩
      · obtain ⟨e', hlast, hlength⟩ := exists_length_doubled_cons (p := p) hc e s
        have he' : (e'.last == .prepend) = Text.takesNext (before ++ [c]) := by
          rw [Text.takesNext, List.getLast?_concat, hlast]
          rfl
        rw [hlength, levelAfter_cons hc]
        exact ih s.length (by rw [← hn, List.length_cons]; omega) _ s e' he' rfl

/-- A text with doubled bars is one piece if and only if its bars are level. -/
theorem length_pieces_doubled_iff (hp : p '|' = true) (s : List Char) :
    (pieces (doubled p s)).length = 1 ↔ LevelBars s := by
  rw [pieces, cut, Text.clusters_eq_clustersAfter]
  exact length_cutAfter_doubled_iff hp [] s _ rfl

instance (s : List Char) : Decidable (LevelBars s) :=
  decidable_of_iff _ (length_pieces_doubled_iff (p := (· == '|')) rfl s)

end Plural

end Phrasebook

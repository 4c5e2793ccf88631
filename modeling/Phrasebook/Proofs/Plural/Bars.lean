import Phrasebook.Plural.Branches
import Phrasebook.Proofs.Text.Trim

namespace Phrasebook.Plural

/-!
# Cutting at bars

Where a template is cut, when every bar of it is a cluster of its own.  The cut can then be read off
the characters: a doubled bar is never a place to cut at, and a single one between blanks always is.

* `Separate`: clusters of which no bar shares one with anything else.
* `cutAfter_singles`: such clusters are cut as their characters are.
* `Uncut`: a text that is not cut, whatever but a bar comes after it; `uncut_escape`.
* `trim_cut_intercalate`: the pieces of texts that were joined with single bars are those texts.
-/

/-- Clusters of which none is empty and none has a bar and something else. -/
structure Separate (gs : List (List Char)) : Prop where
  nonempty : [] ∉ gs
  alone : ∀ g ∈ gs, '|' ∈ g → g = bar

/-- Each character as a cluster. -/
def singles (s : List Char) : List (List Char) :=
  s.map fun c => [c]

@[simp] theorem singles_nil : singles [] = [] := rfl

@[simp] theorem singles_cons (c : Char) (s : List Char) : singles (c :: s) = [c] :: singles s := rfl

@[simp] theorem singles_append (s t : List Char) : singles (s ++ t) = singles s ++ singles t :=
  List.map_append

/-! ### One step of the cut -/

/-- A piece is there, be it the one put in front. -/
theorem onFirst_ne_nil (g : List Char) (ps : List (List Char)) : onFirst g ps ≠ [] := by
  cases ps <;> simp [onFirst]

/-- Nothing put before the first piece changes nothing. -/
theorem onFirst_nil {ps : List (List Char)} (h : ps ≠ []) : onFirst [] ps = ps := by
  cases ps with
  | nil => exact absurd rfl h
  | cons p ps => rfl

/-- Two texts put before the first piece, one after the other. -/
theorem onFirst_onFirst (a b : List Char) (ps : List (List Char)) :
    onFirst a (onFirst b ps) = onFirst (a ++ b) ps := by
  cases ps <;> simp [onFirst]

/-- There is at least one piece. -/
theorem cutAfter_ne_nil (run : Nat) (gs : List (List Char)) : cutAfter run gs ≠ [] := by
  cases gs with
  | nil => simp [cutAfter]
  | cons g gs =>
    unfold cutAfter
    split
    · split
      · simp
      · exact onFirst_ne_nil _ _
    · exact onFirst_ne_nil _ _

/-- A cluster that is no bar belongs to the first piece. -/
theorem cutAfter_plain {g : List Char} (h : g ≠ bar) (run : Nat) (gs : List (List Char)) :
    cutAfter run (g :: gs) = onFirst g (cutAfter 0 gs) := by
  rw [cutAfter, if_neg h]

/-- A bar cuts where it ends an odd run before something else; otherwise it belongs to the piece. -/
theorem cutAfter_bar (run : Nat) (gs : List (List Char)) :
    cutAfter run (bar :: gs)
      = if startsPlain gs && (run + 1) % 2 == 1 then [] :: cutAfter (run + 1) gs
        else onFirst bar (cutAfter (run + 1) gs) := by
  rw [cutAfter, if_pos rfl]

/-- Bars before anything but a bar do not matter. -/
theorem cutAfter_of_head {gs : List (List Char)} (h : gs.head? ≠ some bar) (run : Nat) :
    cutAfter run gs = cutAfter 0 gs := by
  cases gs with
  | nil => rfl
  | cons g gs =>
    have hg : g ≠ bar := by simpa using h
    rw [cutAfter_plain hg, cutAfter_plain hg]

/-- A text without bars stays in one piece. -/
theorem cutAfter_noBar {s : List Char} (hs : '|' ∉ s) (hne : s ≠ []) (run : Nat)
    (gs : List (List Char)) :
    cutAfter run (singles s ++ gs) = onFirst s (cutAfter 0 gs) := by
  induction s generalizing run with
  | nil => exact absurd rfl hne
  | cons c s ih =>
    obtain ⟨hc, hs⟩ : '|' ≠ c ∧ '|' ∉ s := by simpa using hs
    have hbar : [c] ≠ bar := by
      intro h
      exact hc (List.cons.inj h).1.symm
    -- the run before the text is over after its first character
    rw [singles_cons, List.cons_append, cutAfter_plain hbar]
    by_cases hnil : s = []
    · rw [hnil]
      rfl
    · rw [ih hs hnil, onFirst_onFirst]
      rfl

/-! ### Clusters and characters -/

/-- A text starts without a bar in clusters just where it does in characters. -/
theorem startsPlain_singles {gs : List (List Char)} (h : Separate gs) :
    startsPlain gs = startsPlain (singles gs.flatten) := by
  cases gs with
  | nil => rfl
  | cons g gs =>
    cases g with
    | nil => exact absurd (List.mem_cons_self) h.nonempty
    | cons c g =>
      by_cases hc : c = '|'
      · have hg : c :: g = bar := h.alone _ List.mem_cons_self (by simp [hc])
        rw [hg]
        rfl
      · have hg : c :: g ≠ bar := fun he => hc (List.cons.inj he).1
        have hsingle : [c] ≠ bar := fun he => hc (List.cons.inj he).1
        have hleft : startsPlain ((c :: g) :: gs) = true := bne_iff_ne.2 hg
        rw [hleft]
        exact (bne_iff_ne.2 hsingle).symm

/-- Where every bar is a cluster of its own, clusters are cut as their characters are. -/
theorem cutAfter_singles {gs : List (List Char)} (h : Separate gs) (run : Nat) :
    cutAfter run gs = cutAfter run (singles gs.flatten) := by
  induction gs generalizing run with
  | nil => rfl
  | cons g gs ih =>
    have hgs : Separate gs := by
      refine ⟨fun hmem => h.nonempty (by simp [hmem]), fun g' hg' => h.alone g' (by simp [hg'])⟩
    rw [List.flatten_cons, singles_append]
    by_cases hg : g = bar
    · subst hg
      show cutAfter run (bar :: gs) = cutAfter run (bar :: singles gs.flatten)
      rw [cutAfter_bar, cutAfter_bar, startsPlain_singles hgs, ih hgs]
    · have hbar : '|' ∉ g := fun hmem => hg (h.alone g (by simp) hmem)
      have hne : g ≠ [] := fun he => h.nonempty (by simp [he])
      rw [cutAfter_plain hg, cutAfter_noBar hbar hne, ih hgs]

/-- No cluster is empty. -/
theorem nil_not_mem_clustersAfter (s : List Char) (e : Text.Ending) :
    [] ∉ (Text.clustersAfter e s).2 := by
  induction s generalizing e with
  | nil => simp [Text.clustersAfter]
  | cons c s ih =>
    rw [Text.clustersAfter]
    split
    · exact ih _
    · simp [ih]

/-- No cluster of a text is empty. -/
theorem nil_not_mem_clusters (s : List Char) : [] ∉ Text.clusters s := by
  cases s with
  | nil => simp [Text.clusters]
  | cons c s => simp [Text.clusters, nil_not_mem_clustersAfter]

/-! ### Texts that are not cut -/

/-- The text is not cut, whatever but a bar comes after it. -/
def Uncut (s : List Char) : Prop :=
  ∀ gs : List (List Char), gs.head? ≠ some bar →
    cutAfter 0 (singles s ++ gs) = onFirst s (cutAfter 0 gs)

/-- Doubled bars come in runs of even length, so no cut falls on them. -/
theorem cutAfter_escape (s : List Char) {run : Nat} (hrun : run % 2 = 0)
    {gs : List (List Char)} (hgs : gs.head? ≠ some bar) :
    cutAfter run (singles (escape s) ++ gs) = onFirst (escape s) (cutAfter 0 gs) := by
  induction s generalizing run with
  | nil =>
    show cutAfter run gs = onFirst [] (cutAfter 0 gs)
    rw [cutAfter_of_head hgs, onFirst_nil (cutAfter_ne_nil 0 gs)]
  | cons c s ih =>
    by_cases hc : c = '|'
    · subst hc
      have hescape : escape ('|' :: s) = '|' :: '|' :: escape s := rfl
      -- another bar follows the first one of a pair, and after the second one the run is even
      have hsecond : ¬ ((run + 1 + 1) % 2 == 1) = true := by simp; omega
      rw [hescape]
      show cutAfter run (bar :: bar :: (singles (escape s) ++ gs)) = _
      rw [cutAfter_bar, cutAfter_bar, if_neg (by simp [startsPlain]), if_neg (by simp [hsecond]),
        ih (by omega), onFirst_onFirst, onFirst_onFirst]
      rfl
    · have hescape : escape (c :: s) = c :: escape s := by simp [escape, hc]
      have hbar : [c] ≠ bar := fun he => hc (List.cons.inj he).1
      rw [hescape, singles_cons, List.cons_append, cutAfter_plain hbar, ih rfl, onFirst_onFirst]
      rfl

/-- An escaped text is not cut. -/
theorem uncut_escape (s : List Char) : Uncut (escape s) :=
  fun _ hgs => cutAfter_escape s rfl hgs

/-- A text without bars may stand before one that is not cut. -/
theorem Uncut.append {s t : List Char} (hs : '|' ∉ s) (ht : Uncut t) : Uncut (s ++ t) := by
  intro gs hgs
  by_cases hne : s = []
  · rw [hne]
    exact ht gs hgs
  · rw [singles_append, List.append_assoc, cutAfter_noBar hs hne, ht gs hgs, onFirst_onFirst]

/-! ### Joined texts -/

/-- What stands between two branches in their plainest spelling. -/
def barJoin : List Char := [' ', '|', ' ']

/-- A blank before the first piece goes when the pieces are trimmed. -/
theorem trim_onFirst_blank (ps : List (List Char)) (h : ps ≠ []) :
    (onFirst [' '] ps).map Text.trim = ps.map Text.trim := by
  cases ps with
  | nil => exact absurd rfl h
  | cons p ps =>
    have hp : Text.trim ([' '] ++ p) = Text.trim p :=
      Text.trim_blank_append Text.isBlank_of_mem_space p
    rw [onFirst, List.map_cons, List.map_cons, hp]

/-- Texts that are not cut themselves and were joined with single bars between blanks are found
    again as the pieces, but for blanks around them. -/
theorem trim_cut_intercalate {ws : List (List Char)} (hne : ws ≠ []) (h : ∀ w ∈ ws, Uncut w) :
    (cut (singles (barJoin.intercalate ws))).map Text.trim = ws.map Text.trim := by
  induction ws with
  | nil => exact absurd rfl hne
  | cons w ws ih =>
    have hw : Uncut w := h w (by simp)
    cases ws with
    | nil =>
      have hcut := hw [] (by simp)
      rw [List.append_nil] at hcut
      rw [List.intercalate_singleton, cut, hcut]
      simp [cutAfter, onFirst]
    | cons w' ws =>
      have ih := ih (by simp) fun v hv => h v (by simp [hv])
      generalize hrest : barJoin.intercalate (w' :: ws) = rest at ih
      have hjoin : barJoin.intercalate (w :: w' :: ws) = w ++ (' ' :: '|' :: ' ' :: rest) := by
        rw [List.intercalate_cons_cons, hrest, barJoin, List.append_assoc]
        rfl
      have hspace : [' '] ≠ bar := by decide
      -- the bar is a run of its own, and the blank after it starts another cluster
      have hbar : cutAfter 0 ([' '] :: bar :: [' '] :: singles rest)
          = [' '] :: onFirst [' '] (cut (singles rest)) := by
        rw [cutAfter_plain hspace, cutAfter_bar, if_pos (by simp [startsPlain, hspace]),
          cutAfter_plain hspace]
        rfl
      have hcut : cut (singles (barJoin.intercalate (w :: w' :: ws)))
          = (w ++ [' ']) :: onFirst [' '] (cut (singles rest)) := by
        rw [hjoin, singles_append, cut, hw _ (by simp [hspace])]
        show onFirst w (cutAfter 0 ([' '] :: bar :: [' '] :: singles rest)) = _
        rw [hbar]
        rfl
      have hpieces : cut (singles rest) ≠ [] := cutAfter_ne_nil 0 _
      rw [hcut, List.map_cons, List.map_cons, trim_onFirst_blank _ hpieces, ih,
        Text.trim_append_blank Text.isBlank_of_mem_space, List.map_cons]

end Phrasebook.Plural

import Phrasebook.Text.Blank

namespace Phrasebook.Text

/-!
# Trimmed texts

* `Trimmed`: a text that neither starts nor ends with a blank.
* `trim_surrounded`: blanks around a trimmed text are what `trim` takes away.
* `trim_eq_self_iff`: the trimmed texts are the ones that `trim` leaves alone.
* `trim_blank_append`, `trim_append_blank`: blanks put around a text do not show in its trimmed
  form.
-/

/-- The text neither starts nor ends with a blank. -/
structure Trimmed (s : List Char) : Prop where
  start : ∀ c, s.head? = some c → isBlank c = false
  stop : ∀ c, s.getLast? = some c → isBlank c = false

/-- A text without blanks has no outer ones. -/
theorem trimmed_of_forall {s : List Char} (h : ∀ c ∈ s, isBlank c = false) : Trimmed s where
  start := fun c hc => h c (List.mem_of_head? hc)
  stop := fun c hc => h c (List.mem_of_getLast? hc)

/-- Nothing is taken away in front of a character that is no blank. -/
theorem trimStart_of_head {s : List Char} (h : ∀ c, s.head? = some c → isBlank c = false) :
    trimStart s = s := by
  cases s with
  | nil => rfl
  | cons c s =>
    have hc : isBlank c = false := h c rfl
    rw [trimStart, List.dropWhile_cons, hc, if_neg Bool.false_ne_true]

/-- Nothing is taken away behind a character that is no blank. -/
theorem trimEnd_of_last {s : List Char} (h : ∀ c, s.getLast? = some c → isBlank c = false) :
    trimEnd s = s := by
  have hrev : trimStart s.reverse = s.reverse :=
    trimStart_of_head fun c hc => h c (by rw [← List.head?_reverse]; exact hc)
  show (trimStart s.reverse).reverse = s
  rw [hrev, List.reverse_reverse]

/-- Blanks in front are taken away. -/
theorem trimStart_append {l : List Char} (h : ∀ c ∈ l, isBlank c = true) (s : List Char) :
    trimStart (l ++ s) = trimStart s :=
  List.dropWhile_append_of_pos h

/-- Blanks at the end are taken away. -/
theorem trimEnd_append {r : List Char} (h : ∀ c ∈ r, isBlank c = true) (s : List Char) :
    trimEnd (s ++ r) = trimEnd s := by
  show (trimStart (s ++ r).reverse).reverse = (trimStart s.reverse).reverse
  rw [List.reverse_append, trimStart_append (by simpa using h)]

/-- A text without outer blanks stays as it is. -/
theorem trim_of_trimmed {s : List Char} (h : Trimmed s) : trim s = s := by
  rw [trim, trimStart_of_head h.start, trimEnd_of_last h.stop]

/-- Trimming takes away the blanks around a trimmed text and nothing else. -/
theorem trim_surrounded {l s r : List Char} (hl : ∀ c ∈ l, isBlank c = true) (hs : Trimmed s)
    (hr : ∀ c ∈ r, isBlank c = true) : trim (l ++ s ++ r) = s := by
  by_cases hne : s = []
  · -- the blanks before and after are one row of blanks
    have hall : ∀ c ∈ l ++ r, isBlank c = true := by
      intro c hc
      rcases List.mem_append.1 hc with hc | hc
      · exact hl c hc
      · exact hr c hc
    have hstart : trimStart (l ++ r) = [] := by
      have h := trimStart_append hall []
      rwa [List.append_nil] at h
    rw [hne, List.append_nil, trim, hstart]
    rfl
  · have hhead : ∀ c, (s ++ r).head? = some c → isBlank c = false := by
      intro c hc
      cases s with
      | nil => exact absurd rfl hne
      | cons d s => exact hs.start c hc
    rw [trim, List.append_assoc, trimStart_append hl, trimStart_of_head hhead, trimEnd_append hr,
      trimEnd_of_last hs.stop]

/-- Without the blanks at its end, a text that starts with none has no outer blanks. -/
theorem trimmed_trimEnd {s : List Char} (h : ∀ c, s.head? = some c → isBlank c = false) :
    Trimmed (trimEnd s) := by
  have hlast : ∀ c, (trimEnd s).getLast? = some c → isBlank c = false := by
    intro c hc
    rw [trimEnd, List.getLast?_reverse] at hc
    have hnot := List.head?_dropWhile_not isBlank s.reverse
    rw [hc] at hnot
    simpa using hnot
  refine ⟨fun c hc => ?_, hlast⟩
  -- what is left is a first part of `s`, so it starts as `s` does
  have hpre : trimEnd s <+: s := by
    have hsuf := List.dropWhile_suffix isBlank (l := s.reverse)
    rw [trimEnd]
    exact List.reverse_suffix.1 (by rwa [List.reverse_reverse])
  obtain ⟨r, hr⟩ := hpre
  refine h c ?_
  rw [← hr, List.head?_append, hc]
  rfl

/-- What is left by trimming is trimmed. -/
theorem trimmed_trim (s : List Char) : Trimmed (trim s) := by
  refine trimmed_trimEnd fun c hc => ?_
  have hnot := List.head?_dropWhile_not isBlank s
  rw [show s.dropWhile isBlank = trimStart s from rfl, hc] at hnot
  simpa using hnot

/-- A text stays as it is just where it has no outer blanks. -/
theorem trim_eq_self_iff (s : List Char) : trim s = s ↔ Trimmed s :=
  ⟨fun h => h ▸ trimmed_trim s, trim_of_trimmed⟩

/-- A text is its trimmed form with blanks around it. -/
theorem exists_surrounded (s : List Char) :
    ∃ l r, (∀ c ∈ l, isBlank c = true) ∧ (∀ c ∈ r, isBlank c = true) ∧ s = l ++ trim s ++ r := by
  have hblank : ∀ t : List Char, ∀ c ∈ t.takeWhile isBlank, isBlank c = true := by
    intro t
    have h := List.all_takeWhile (p := isBlank) (l := t)
    rwa [List.all_eq_true] at h
  refine ⟨s.takeWhile isBlank, ((trimStart s).reverse.takeWhile isBlank).reverse,
    hblank s, fun c hc => hblank _ c (List.mem_reverse.1 hc), ?_⟩
  have hend : trim s ++ ((trimStart s).reverse.takeWhile isBlank).reverse = trimStart s := by
    rw [trim, trimEnd, ← List.reverse_append, List.takeWhile_append_dropWhile, List.reverse_reverse]
  rw [List.append_assoc, hend, trimStart, List.takeWhile_append_dropWhile]

theorem isBlank_of_mem_space : ∀ c ∈ [' '], isBlank c = true := by
  intro c hc
  rw [List.mem_singleton.1 hc]
  decide

/-- Blanks in front do not show in the trimmed form. -/
theorem trim_blank_append {w : List Char} (h : ∀ c ∈ w, isBlank c = true) (s : List Char) :
    trim (w ++ s) = trim s := by
  obtain ⟨l, r, hl, hr, hs⟩ := exists_surrounded s
  have hwl : ∀ c ∈ w ++ l, isBlank c = true := by
    intro c hc
    exact (List.mem_append.1 hc).elim (h c) (hl c)
  calc trim (w ++ s) = trim (w ++ l ++ trim s ++ r) := by
        rw [List.append_assoc w, List.append_assoc w, ← hs]
    _ = trim s := trim_surrounded hwl (trimmed_trim s) hr

/-- Blanks at the end do not show in the trimmed form. -/
theorem trim_append_blank {w : List Char} (h : ∀ c ∈ w, isBlank c = true) (s : List Char) :
    trim (s ++ w) = trim s := by
  obtain ⟨l, r, hl, hr, hs⟩ := exists_surrounded s
  have hrw : ∀ c ∈ r ++ w, isBlank c = true := by
    intro c hc
    exact (List.mem_append.1 hc).elim (hr c) (h c)
  calc trim (s ++ w) = trim (l ++ trim s ++ (r ++ w)) := by
        rw [← List.append_assoc (l ++ trim s), ← hs]
    _ = trim s := trim_surrounded hl (trimmed_trim s) hrw

/-- Trimming takes no notice of a change of letters that keeps the blanks. -/
theorem trim_map {f : Char → Char} (h : ∀ c, isBlank (f c) = isBlank c) (s : List Char) :
    trim (s.map f) = (trim s).map f := by
  have hblank : isBlank ∘ f = isBlank := funext h
  rw [trim, trimStart, trimEnd, List.dropWhile_map, hblank, ← List.map_reverse, List.dropWhile_map,
    hblank, ← List.map_reverse]
  rfl

end Phrasebook.Text

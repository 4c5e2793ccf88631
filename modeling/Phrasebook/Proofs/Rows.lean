import Mathlib.Data.List.Forall2

namespace Phrasebook

/-!
# Rows of readings

A row of texts or files is read one by one, and reading ends at the first fault.

* `faultOf`: the fault of an answer.
* `bind_eq_ok_iff`, `bind_eq_error_iff`: two readings, one after the other.
* `mapM_eq_findSome?`: the answers of a row, or the first fault in it.
* `mapM_eq_ok_iff`: a row is answered just where each of it is.
* `mapM_eq_error_iff`: the fault of a row is that of the first of it that has one.
* `getD_findSome?_reverse_cons`: the last find in a row, from its front.
* `mapM_eq_some_iff`, `isSome_mapM`, `exists_of_mem_mapM`: a row that is rewritten, when it can
  be, and what is in it then.
* `mem_intercalate`: what is in a row of texts with a separator.
-/

variable {α : Type u} {β : Type v} {ε : Type w}

/-- The fault of an answer. -/
def faultOf : Except ε β → Option ε
  | .ok _ => none
  | .error f => some f

/-- An answer has a fault just where it is that fault. -/
theorem faultOf_eq_some_iff {x : Except ε β} {f : ε} : faultOf x = some f ↔ x = .error f := by
  cases x <;> simp [faultOf]

/-- An answer without a fault is a result. -/
theorem faultOf_eq_none_iff {x : Except ε β} : faultOf x = none ↔ ∃ b, x = .ok b := by
  cases x <;> simp [faultOf]

/-- An answer has a result just where it is that result. -/
theorem toOption_eq_some_iff {x : Except ε β} {b : β} : x.toOption = some b ↔ x = .ok b := by
  cases x <;> simp [Except.toOption]

/-- What goes on from a reading is answered just where that reading is. -/
theorem bind_eq_ok_iff {γ : Type v} {x : Except ε γ} {g : γ → Except ε β} {b : β} :
    x >>= g = .ok b ↔ ∃ a, x = .ok a ∧ g a = .ok b := by
  cases x with
  | error f => simp [bind, Except.bind]
  | ok a => simp [bind, Except.bind]

/-- Two readings fail where the first does, or the second one after it. -/
theorem bind_eq_error_iff {γ : Type v} {x : Except ε γ} {g : γ → Except ε β} {f : ε} :
    x >>= g = .error f ↔ x = .error f ∨ ∃ a, x = .ok a ∧ g a = .error f := by
  cases x with
  | error f' => simp [bind, Except.bind]
  | ok a => simp [bind, Except.bind]

/-! ### Rows -/

/-- The answers of a row, or the first fault in it. -/
theorem mapM_eq_findSome? (g : α → Except ε β) (xs : List α) :
    xs.mapM g = (xs.findSome? fun x => faultOf (g x)).elim
      (.ok (xs.filterMap fun x => (g x).toOption)) .error := by
  induction xs with
  | nil => rfl
  | cons x xs ih =>
    rw [List.mapM_cons, ih]
    cases hx : g x with
    | error f =>
      rw [List.findSome?_cons, hx]
      rfl
    | ok b =>
      have hvalue : (g x).toOption = some b := by
        rw [hx]
        rfl
      rw [List.findSome?_cons, List.filterMap_cons, hvalue, hx]
      cases xs.findSome? fun x => faultOf (g x) <;> rfl

/-- Of two rows that go together, each member of one has a partner in the other. -/
theorem exists_of_forall₂ {R : α → β → Prop} {xs : List α} {ys : List β}
    (h : List.Forall₂ R xs ys) :
    (∀ x ∈ xs, ∃ y ∈ ys, R x y) ∧ ∀ y ∈ ys, ∃ x ∈ xs, R x y := by
  induction h with
  | nil => simp
  | cons hxy _ ih =>
    simp only [List.mem_cons, forall_eq_or_imp, exists_eq_or_imp]
    exact ⟨⟨Or.inl hxy, fun x hx => Or.inr (ih.1 x hx)⟩, Or.inl hxy, fun y hy => Or.inr (ih.2 y hy)⟩

/-- A row is answered just where each of it is. -/
theorem mapM_eq_ok_iff {g : α → Except ε β} {xs : List α} {ys : List β} :
    xs.mapM g = .ok ys ↔ List.Forall₂ (fun x y => g x = .ok y) xs ys := by
  induction xs generalizing ys with
  | nil =>
    rw [List.mapM_nil, List.forall₂_nil_left_iff]
    exact ⟨fun h => (Except.ok.inj h).symm, fun h => congrArg Except.ok h.symm⟩
  | cons x xs ih =>
    rw [List.mapM_cons, List.forall₂_cons_left_iff]
    constructor
    · intro h
      obtain ⟨y, hx, h⟩ := bind_eq_ok_iff.1 h
      obtain ⟨ys', hxs, h⟩ := bind_eq_ok_iff.1 h
      exact ⟨y, ys', hx, ih.1 hxs, (Except.ok.inj h).symm⟩
    · rintro ⟨y, ys', hx, hxs, rfl⟩
      rw [hx, ih.2 hxs]
      rfl

/-- Some answers are those of a row, if each of it has one. -/
theorem exists_mapM_eq_ok_iff {g : α → Except ε β} {xs : List α} :
    (∃ ys, xs.mapM g = .ok ys) ↔ ∀ x ∈ xs, ∃ y, g x = .ok y := by
  rw [mapM_eq_findSome?]
  cases hfirst : xs.findSome? fun x => faultOf (g x) with
  | none =>
    refine iff_of_true ⟨_, rfl⟩ fun x hx => ?_
    exact faultOf_eq_none_iff.1 (List.findSome?_eq_none_iff.1 hfirst x hx)
  | some f =>
    obtain ⟨before, x, after, rfl, hx, -⟩ := List.findSome?_eq_some_iff.1 hfirst
    refine iff_of_false (by simp) fun h => ?_
    obtain ⟨y, hy⟩ := h x (by simp)
    exact absurd (hy.symm.trans (faultOf_eq_some_iff.1 hx)) (by simp)

/-- The fault of a row is that of the first of it that has one. -/
theorem mapM_eq_error_iff {g : α → Except ε β} {xs : List α} {f : ε} :
    xs.mapM g = .error f ↔ ∃ before x after, xs = before ++ x :: after ∧
      (∀ y ∈ before, ∃ b, g y = .ok b) ∧ g x = .error f := by
  have hrow : xs.mapM g = .error f ↔ (xs.findSome? fun x => faultOf (g x)) = some f := by
    rw [mapM_eq_findSome?]
    cases xs.findSome? fun x => faultOf (g x) <;> simp
  rw [hrow, List.findSome?_eq_some_iff]
  simp only [faultOf_eq_some_iff, faultOf_eq_none_iff]
  constructor
  · rintro ⟨before, x, after, hxs, hx, hbefore⟩
    exact ⟨before, x, after, hxs, hbefore, hx⟩
  · rintro ⟨before, x, after, hxs, hbefore, hx⟩
    exact ⟨before, x, after, hxs, hx, hbefore⟩

/-- The first find among those that are kept. -/
theorem findSome?_filterMap (p : α → Option β) (g : β → Option ε) (xs : List α) :
    (xs.filterMap p).findSome? g = xs.findSome? fun x => (p x).bind g := by
  induction xs with
  | nil => rfl
  | cons x xs ih =>
    rw [List.filterMap_cons, List.findSome?_cons]
    cases p x with
    | none => exact ih
    | some b =>
      rw [List.findSome?_cons, ih]
      rfl

/-! ### The last find -/

/-- Of what is found in a row the last one counts, and the usual one where there is none. -/
theorem getD_findSome?_reverse_cons (g : α → Option β) (b : β) (x : α) (xs : List α) :
    ((x :: xs).reverse.findSome? g).getD b
      = (xs.reverse.findSome? g).getD ((g x).getD b) := by
  rw [List.reverse_cons, List.findSome?_append]
  cases xs.reverse.findSome? g with
  | none => cases hx : g x <;> simp [hx]
  | some b' => rfl

/-! ### Rows that are rewritten -/

/-- A row is rewritten just where it is made of what it is rewritten to. -/
theorem mapM_eq_some_iff {α β : Type u} {f : α → Option β} {g : β → α}
    (h : ∀ a b, f a = some b ↔ g b = a) {xs : List α} {ys : List β} :
    xs.mapM f = some ys ↔ ys.map g = xs := by
  induction xs generalizing ys with
  | nil =>
    rw [List.mapM_nil, List.map_eq_nil_iff]
    exact ⟨fun hnil => (Option.some.inj hnil).symm, fun hnil => congrArg some hnil.symm⟩
  | cons x xs ih =>
    rw [List.mapM_cons]
    constructor
    · intro hrow
      obtain ⟨y, hy, hrest⟩ := Option.bind_eq_some_iff.1 hrow
      obtain ⟨ys', hys', hcons⟩ := Option.bind_eq_some_iff.1 hrest
      rw [← Option.some.inj hcons, List.map_cons, (h x y).1 hy, ih.1 hys']
    · intro hmap
      obtain ⟨y, ys', rfl, hy, hys'⟩ := List.map_eq_cons_iff.1 hmap
      rw [(h x y).2 hy, ih.2 hys']
      rfl

/-- A row can be rewritten if each of it can. -/
theorem isSome_mapM {α β : Type u} {f : α → Option β} {xs : List α} :
    (xs.mapM f).isSome = true ↔ ∀ x ∈ xs, (f x).isSome = true := by
  induction xs with
  | nil => simp
  | cons x xs ih =>
    rw [List.mapM_cons, List.forall_mem_cons, ← ih]
    cases f x with
    | none => simp
    | some y => cases xs.mapM f <;> simp

/-- Whatever is in a rewritten row is what something in the row is rewritten to. -/
theorem exists_of_mem_mapM {α β : Type u} {f : α → Option β} {xs : List α} {ys : List β}
    (h : xs.mapM f = some ys) {y : β} (hy : y ∈ ys) : ∃ x ∈ xs, f x = some y := by
  induction xs generalizing ys with
  | nil =>
    rw [List.mapM_nil] at h
    rw [← Option.some.inj h] at hy
    exact absurd hy List.not_mem_nil
  | cons x xs ih =>
    rw [List.mapM_cons] at h
    obtain ⟨z, hz, hrest⟩ := Option.bind_eq_some_iff.1 h
    obtain ⟨zs, hzs, hcons⟩ := Option.bind_eq_some_iff.1 hrest
    rw [← Option.some.inj hcons] at hy
    rcases List.mem_cons.1 hy with rfl | hy
    · exact ⟨x, List.mem_cons_self, hz⟩
    · obtain ⟨x', hx', hx⟩ := ih hzs hy
      exact ⟨x', List.mem_cons_of_mem x hx', hx⟩

/-! ### Rows with a separator -/

/-- What is in a row of texts with a separator is in the separator or in one of the texts. -/
theorem mem_intercalate {a : α} {sep : List α} {xs : List (List α)}
    (h : a ∈ sep.intercalate xs) : a ∈ sep ∨ ∃ x ∈ xs, a ∈ x := by
  induction xs with
  | nil => simp at h
  | cons x xs ih =>
    cases xs with
    | nil =>
      rw [List.intercalate_singleton] at h
      exact Or.inr ⟨x, by simp, h⟩
    | cons y ys =>
      rw [List.intercalate_cons_cons, List.append_assoc, List.mem_append, List.mem_append] at h
      rcases h with h | h | h
      · exact Or.inr ⟨x, by simp, h⟩
      · exact Or.inl h
      · rcases ih h with h | ⟨z, hz, hmem⟩
        · exact Or.inl h
        · exact Or.inr ⟨z, by simp [hz], hmem⟩

end Phrasebook

namespace Phrasebook

/-!
# Arenas

Values that are shared by reference, so that a change to one is seen wherever it is referred to.

* `Ref`: a reference to a value of a type.
* `Arena`: the values that references refer to.
* `Arena.get?`, `Arena.push`, `Arena.set`: a pushed value gets a new reference, and a reference
  never comes to refer to another place.
-/

/-- A reference to a value of a type. -/
structure Ref (α : Type u) where
  index : Nat

/-- The values that references refer to. -/
structure Arena (α : Type u) where
  cells : List α := []

variable {α : Type u}

instance : DecidableEq (Ref α) := fun r r' =>
  decidable_of_iff (r.index = r'.index) (by cases r; cases r'; simp)

namespace Arena

/-- The value that a reference refers to. -/
def get? (a : Arena α) (r : Ref α) : Option α :=
  a.cells[r.index]?

/-- The reference that the next value pushed will get. -/
def fresh (a : Arena α) : Ref α :=
  ⟨a.cells.length⟩

/-- A new value put in, under the fresh reference. -/
def push (a : Arena α) (x : α) : Arena α :=
  ⟨a.cells ++ [x]⟩

/-- Another value put where a reference refers to. -/
def set (a : Arena α) (r : Ref α) (x : α) : Arena α :=
  ⟨a.cells.set r.index x⟩

/-- The value where a reference refers to, changed. -/
def modify (a : Arena α) (r : Ref α) (f : α → α) : Arena α :=
  ⟨a.cells.modify r.index f⟩

/-- Nothing is kept under the next reference. -/
theorem get?_fresh (a : Arena α) : a.get? a.fresh = none := by
  simp [get?, fresh]

/-- The values after one is kept under the next reference. -/
theorem get?_push (a : Arena α) (x : α) (r : Ref α) :
    (a.push x).get? r = if r = a.fresh then some x else a.get? r := by
  obtain ⟨i⟩ := r
  simp only [get?, push, fresh, Ref.mk.injEq]
  grind

/-- The values after one is replaced. -/
theorem get?_set (a : Arena α) (r r' : Ref α) (x : α) :
    (a.set r x).get? r' = if r' = r then (a.get? r).map fun _ => x else a.get? r' := by
  obtain ⟨i⟩ := r
  obtain ⟨j⟩ := r'
  simp only [get?, set, Ref.mk.injEq]
  grind

/-- The values after one is changed. -/
theorem get?_modify (a : Arena α) (r r' : Ref α) (f : α → α) :
    (a.modify r f).get? r' = if r' = r then (a.get? r).map f else a.get? r' := by
  obtain ⟨i⟩ := r
  obtain ⟨j⟩ := r'
  simp only [get?, modify, Ref.mk.injEq]
  grind

end Arena

end Phrasebook

import Phrasebook.Dict
import Phrasebook.Number.Layout

namespace Phrasebook

/-!
# What was used least recently gives way

Entries stand in a row with the one used last in front, and the row has a number of places.  The
rules are those of a library; what is built on them knows them by their laws alone.

* `UseRules`, `useRules`: how entries are found and put in.
* `CapacityRules`, `capacityRules`: which numbers are a number of places, and why the others are
  not.
-/

/-! ### Entries -/

/-- How entries are found and put in.  This is all that is known of it. -/
structure UseRules (α : Type u) where
  /-- what stands under a key, and the entries after that -/
  find : String → List (String × α) → Option α × List (String × α)
  /-- the entries with one more, in a row of so many places -/
  add : Nat → String → α → List (String × α) → List (String × α)
  /-- what is found comes to the front -/
  found : ∀ {key a es}, lookupEntry key es = some a →
    find key es = (some a, (key, a) :: dropEntry key es)
  /-- where nothing is found, nothing changes -/
  missing : ∀ {key es}, lookupEntry key es = none → find key es = (none, es)
  /-- a new entry comes to the front, and what has no place any more is dropped from the end -/
  added : ∀ {n key a es}, lookupEntry key es = none → add n key a es = ((key, a) :: es).take n

/-- Without the entries under a key that there is none under, entries are what they were. -/
theorem dropEntry_of_lookupEntry {κ : Type u} {α : Type v} [DecidableEq κ] {k : κ}
    {es : List (κ × α)} (h : lookupEntry k es = none) : dropEntry k es = es := by
  refine List.filter_eq_self.2 fun e he => decide_eq_true ?_
  rintro rfl
  have hsome := (lookupEntry_isSome e.1 es).2 (List.mem_map_of_mem he)
  rw [h] at hsome
  exact absurd hsome Bool.false_ne_true

/-- The rules, as they are carried out. -/
def useRules {α : Type u} : UseRules α where
  find key es :=
    match lookupEntry key es with
    | some a => (some a, (key, a) :: dropEntry key es)
    | none => (none, es)
  add n key a es := ((key, a) :: dropEntry key es).take n
  found h := by simp only [h]
  missing h := by simp only [h]
  added h := by rw [dropEntry_of_lookupEntry h]

/-! ### Places -/

/-- Why a number is no capacity. -/
inductive CapacityFault
  /-- it is zero -/
  | zero
  /-- it is not a natural number -/
  | notNatural
  /-- no row has so many places -/
  | beyondRows
  /-- it is beyond the numbers up to which every integer has a double of its own -/
  | beyondExact (x : Number.Double)
  deriving DecidableEq

namespace CapacityFault

/-- The fault of a capacity, in words. -/
def inWords : CapacityFault → String
  | zero => "At least one of max, maxSize, or ttl is required"
  | notNatural => "max option must be a nonnegative integer"
  | beyondRows => "Invalid array length"
  | beyondExact x => "invalid max value: " ++ x.text

/-- The kind of a fault of a capacity. -/
def kind : CapacityFault → String
  | zero | notNatural => "TypeError"
  | beyondRows => "RangeError"
  | beyondExact _ => "Error"

end CapacityFault

/-- One more than the places that a row may have. -/
def rowBound : Nat := 0x100000000

/-- Which numbers are capacities.  This is all that is known of it. -/
structure CapacityRules where
  /-- the capacity that a number states -/
  read : Number.Double → Except CapacityFault Nat
  accepted : ∀ {x : Number.Double} {n : Nat}, x.toSafeInt? = some (n : Int) → 0 < n →
    n < rowBound → read x = .ok n
  /-- a row has places -/
  zero : ∀ {x : Number.Double}, x.toInt? = some 0 → read x = .error .zero
  notNatural : ∀ {x : Number.Double}, (∀ n : Nat, x.toInt? ≠ some (n : Int)) →
    read x = .error .notNatural
  beyondRows : ∀ {x : Number.Double} {n : Nat}, x.toSafeInt? = some (n : Int) → rowBound ≤ n →
    read x = .error .beyondRows
  beyondExact : ∀ {x : Number.Double} {n : Nat}, x.toInt? = some (n : Int) → 0 < n →
    x.toSafeInt? = none → read x = .error (.beyondExact x)

/-- An integer of at most 53 bits is an integer. -/
theorem Number.Double.toInt?_of_toSafeInt? {x : Number.Double} {n : Int}
    (h : x.toSafeInt? = some n) : x.toInt? = some n :=
  (Option.filter_eq_some_iff.1 h).1

/-- The rules, as they are carried out. -/
def capacityRules : CapacityRules where
  read x :=
    match x.toInt? with
    | some (.ofNat 0) => .error .zero
    | some (.ofNat (n + 1)) =>
      if x.toSafeInt?.isNone then .error (.beyondExact x)
      else if rowBound ≤ n + 1 then .error .beyondRows
      else .ok (n + 1)
    | _ => .error .notNatural
  accepted {x n} hsafe hpos hrow := by
    obtain ⟨m, rfl⟩ : ∃ m, n = m + 1 := ⟨n - 1, by omega⟩
    rw [Number.Double.toInt?_of_toSafeInt? hsafe, hsafe]
    show (if rowBound ≤ m + 1 then _ else _ : Except CapacityFault Nat) = _
    rw [if_neg (by omega)]
  zero h := by
    simp only [h]
  notNatural {x} h := by
    split
    · next hx => exact absurd hx (h 0)
    · next n hx => exact absurd hx (h (n + 1))
    · rfl
  beyondRows {x n} hsafe hrow := by
    obtain ⟨m, rfl⟩ : ∃ m, n = m + 1 := ⟨n - 1, by rw [rowBound] at hrow; omega⟩
    rw [Number.Double.toInt?_of_toSafeInt? hsafe, hsafe]
    show (if rowBound ≤ m + 1 then _ else _ : Except CapacityFault Nat) = _
    rw [if_pos hrow]
  beyondExact {x n} h hpos hsafe := by
    obtain ⟨m, rfl⟩ : ∃ m, n = m + 1 := ⟨n - 1, by omega⟩
    rw [h, hsafe]
    rfl

end Phrasebook

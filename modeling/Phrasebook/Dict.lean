namespace Phrasebook

/-!
# Dictionaries

Finite maps that remember the order in which their keys first came in.

* `Dict`: entries with distinct keys.
* `Dict.get?`, `Dict.insert`, `Dict.erase`: a key that is inserted again keeps its place and takes
  the new value.
* `Dict.ofList`: the dictionary that a list of entries builds, one after another.

Each operation has a lemma on `get?` and one on `keys`.
-/

/-- Entries with distinct keys. -/
structure Dict (κ : Type u) (α : Type v) where
  entries : List (κ × α)
  nodup : (entries.map Prod.fst).Nodup
  deriving DecidableEq

variable {κ : Type u} {α : Type v} [DecidableEq κ]

/-! ### Lists of entries -/

/-- The value of the first entry with this key. -/
def lookupEntry (k : κ) : List (κ × α) → Option α
  | [] => none
  | e :: es => if e.1 = k then some e.2 else lookupEntry k es

/-- Entries with a value put under a key: in the key's place, or at the end. -/
def putEntry (k : κ) (a : α) : List (κ × α) → List (κ × α)
  | [] => [(k, a)]
  | e :: es => if e.1 = k then (k, a) :: es else e :: putEntry k a es

/-- Entries without those of one key. -/
def dropEntry (k : κ) (es : List (κ × α)) : List (κ × α) :=
  es.filter fun e => e.1 ≠ k

/-- An entry that is put in is found under its key, and the others as before. -/
theorem lookupEntry_putEntry (k k' : κ) (a : α) (es : List (κ × α)) :
    lookupEntry k' (putEntry k a es) = if k' = k then some a else lookupEntry k' es := by
  induction es with
  | nil => simp [putEntry, lookupEntry, eq_comm]
  | cons e es ih =>
    by_cases he : e.1 = k
    · by_cases h : k' = k
      · simp [putEntry, lookupEntry, he, h]
      · simp [putEntry, lookupEntry, he, h, Ne.symm h]
    · by_cases h : e.1 = k'
      · simp [putEntry, lookupEntry, h, show k' ≠ k from h ▸ he]
      · simp [putEntry, lookupEntry, he, h, ih]

/-- A new key comes last; one that is there keeps its place. -/
theorem keys_putEntry (k : κ) (a : α) (es : List (κ × α)) :
    (putEntry k a es).map Prod.fst
      = if k ∈ es.map Prod.fst then es.map Prod.fst else es.map Prod.fst ++ [k] := by
  induction es with
  | nil => simp [putEntry]
  | cons e es ih =>
    by_cases he : e.1 = k
    · simp [putEntry, he]
    · have hne : k ≠ e.1 := Ne.symm he
      simp only [putEntry, if_neg he, List.map_cons, List.mem_cons, hne, false_or, ih]
      split <;> simp

/-- No key is there twice after an entry is put in. -/
theorem nodup_putEntry (k : κ) (a : α) {es : List (κ × α)} (h : (es.map Prod.fst).Nodup) :
    ((putEntry k a es).map Prod.fst).Nodup := by
  rw [keys_putEntry]
  split
  · exact h
  · next hk =>
    rw [List.nodup_append]
    exact ⟨h, by simp, fun x hx y hy => by rintro rfl; simp_all⟩

/-- An entry that is dropped is found no more, and the others as before. -/
theorem lookupEntry_dropEntry (k k' : κ) (es : List (κ × α)) :
    lookupEntry k' (dropEntry k es) = if k' = k then none else lookupEntry k' es := by
  induction es with
  | nil => simp [dropEntry, lookupEntry]
  | cons e es ih =>
    unfold dropEntry at ih ⊢
    by_cases he : e.1 = k
    · rw [List.filter_cons_of_neg (by simp [he]), ih]
      by_cases h : k' = k
      · simp [h]
      · simp [lookupEntry, he, h, Ne.symm h]
    · rw [List.filter_cons_of_pos (by simp [he])]
      by_cases h : e.1 = k'
      · simp [lookupEntry, h, show k' ≠ k from h ▸ he]
      · simp only [lookupEntry, if_neg h, ih]

/-- The keys without one, in their order. -/
theorem keys_dropEntry (k : κ) (es : List (κ × α)) :
    (dropEntry k es).map Prod.fst = (es.map Prod.fst).filter (· ≠ k) := by
  rw [List.filter_map]
  rfl

/-- Something is found under the keys that are there. -/
theorem lookupEntry_isSome (k : κ) (es : List (κ × α)) :
    (lookupEntry k es).isSome ↔ k ∈ es.map Prod.fst := by
  induction es with
  | nil => simp [lookupEntry]
  | cons e es ih =>
    by_cases h : e.1 = k
    · simp [lookupEntry, h]
    · have hne : k ≠ e.1 := Ne.symm h
      simp only [lookupEntry, if_neg h, List.map_cons, List.mem_cons, hne, false_or, ih]

/-! ### Dictionaries -/

namespace Dict

/-- The dictionary without entries. -/
def empty : Dict κ α := ⟨[], by simp⟩

instance : Inhabited (Dict κ α) := ⟨empty⟩

/-- The keys, in the order in which they first came in. -/
def keys (d : Dict κ α) : List κ :=
  d.entries.map Prod.fst

/-- The values, in the order of their keys. -/
def values (d : Dict κ α) : List α :=
  d.entries.map Prod.snd

/-- The number of keys. -/
def size (d : Dict κ α) : Nat :=
  d.entries.length

/-- The value under a key. -/
def get? (d : Dict κ α) (k : κ) : Option α :=
  lookupEntry k d.entries

/-- Whether a key has a value. -/
def contains (d : Dict κ α) (k : κ) : Bool :=
  (d.get? k).isSome

/-- A value put under a key. -/
def insert (d : Dict κ α) (k : κ) (a : α) : Dict κ α :=
  ⟨putEntry k a d.entries, nodup_putEntry k a d.nodup⟩

/-- A key taken away. -/
def erase (d : Dict κ α) (k : κ) : Dict κ α :=
  ⟨dropEntry k d.entries, by rw [keys_dropEntry]; exact d.nodup.filter _⟩

/-- The same keys, each with a value made from the key and its old value. -/
def mapEntries {β : Type w} (f : κ → α → β) (d : Dict κ α) : Dict κ β :=
  ⟨d.entries.map fun e => (e.1, f e.1 e.2), by
    rw [List.map_map]
    exact d.nodup⟩

/-- Entries put in one after another. -/
def insertList (d : Dict κ α) (es : List (κ × α)) : Dict κ α :=
  es.foldl (fun d e => d.insert e.1 e.2) d

/-- The dictionary that a list of entries builds. -/
def ofList (es : List (κ × α)) : Dict κ α :=
  empty.insertList es

@[simp] theorem get?_empty (k : κ) : (empty : Dict κ α).get? k = none := rfl

omit [DecidableEq κ] in
@[simp] theorem keys_empty : (empty : Dict κ α).keys = [] := rfl

/-- The values after one is put in. -/
theorem get?_insert (d : Dict κ α) (k k' : κ) (a : α) :
    (d.insert k a).get? k' = if k' = k then some a else d.get? k' :=
  lookupEntry_putEntry k k' a d.entries

/-- A new key comes last; one that is there keeps its place. -/
theorem keys_insert (d : Dict κ α) (k : κ) (a : α) :
    (d.insert k a).keys = if k ∈ d.keys then d.keys else d.keys ++ [k] :=
  keys_putEntry k a d.entries

/-- The values after one is erased. -/
theorem get?_erase (d : Dict κ α) (k k' : κ) :
    (d.erase k).get? k' = if k' = k then none else d.get? k' :=
  lookupEntry_dropEntry k k' d.entries

/-- The keys without the one that is erased, in their order. -/
theorem keys_erase (d : Dict κ α) (k : κ) : (d.erase k).keys = d.keys.filter (· ≠ k) :=
  keys_dropEntry k d.entries

/-- The keys of a dictionary are those that it contains. -/
theorem contains_iff (d : Dict κ α) (k : κ) : d.contains k = true ↔ k ∈ d.keys :=
  lookupEntry_isSome k d.entries

/-- The values of a dictionary when each is changed. -/
theorem get?_mapEntries {β : Type w} (f : κ → α → β) (d : Dict κ α) (k : κ) :
    (d.mapEntries f).get? k = (d.get? k).map (f k) := by
  simp only [get?, mapEntries]
  induction d.entries with
  | nil => rfl
  | cons e es ih =>
    by_cases h : e.1 = k
    · subst h
      simp [lookupEntry]
    · simp only [List.map_cons, lookupEntry, if_neg h, ih]

omit [DecidableEq κ] in
/-- Changing the values leaves the keys as they are. -/
theorem keys_mapEntries {β : Type w} (f : κ → α → β) (d : Dict κ α) :
    (d.mapEntries f).keys = d.keys := by
  simp [keys, mapEntries]

@[simp] theorem insertList_nil (d : Dict κ α) : d.insertList [] = d := rfl

@[simp] theorem insertList_cons (d : Dict κ α) (e : κ × α) (es : List (κ × α)) :
    d.insertList (e :: es) = (d.insert e.1 e.2).insertList es := rfl

end Dict

end Phrasebook

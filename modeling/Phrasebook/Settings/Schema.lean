import Phrasebook.Number.Numeral
import Phrasebook.Value

namespace Phrasebook

/-!
# Schemas

A schema checks a value of any kind and tells everything that is wrong with it.  The rules are those
of a library; what is built on them knows them by their laws alone.

* `SettingIssue`, `Checked`: what is wrong with a value, and a value that was checked.
* `Checked.both`, `Checked.all`: parts of a value that are checked, and all that is wrong with them.
* `SchemaRules`, `schemaRules`: how values of each kind are checked.
-/

/-- What is wrong with one setting. -/
structure SettingIssue where
  path : String
  message : String
  deriving DecidableEq, Repr

/-- A setting that was checked: what it is, or what is wrong with it. -/
abbrev Checked (α : Type) := Except (List SettingIssue) α

namespace Checked

variable {α β : Type}

/-- What is wrong with a setting. -/
def issues : Checked α → List SettingIssue
  | .ok _ => []
  | .error is => is

/-- A setting that is what it is if nothing is wrong with it. -/
def withIssues (is : List SettingIssue) (a : α) : Checked α :=
  if is.isEmpty then .ok a else .error is

/-- Two parts, of which the second is checked whatever the first one comes to. -/
def both (a : Checked α) (b : Checked β) : Checked (α × β) :=
  match a, b with
  | .ok a, .ok b => .ok (a, b)
  | a, b => .error (a.issues ++ b.issues)

/-- Parts in a row, each of which is checked. -/
def all : List (Checked α) → Checked (List α)
  | [] => .ok []
  | c :: cs => (both c (all cs)).map fun p => p.1 :: p.2

end Checked

/-! ### Words for issues -/

/-- The kind of a value, in words. -/
def Value.kind : Value → String
  | undefined => "undefined"
  | null => "null"
  | truth _ => "boolean"
  | number .nan => "nan"
  | number _ => "number"
  | integer _ => "bigint"
  | text _ => "string"
  | list _ => "array"
  | record _ | locale _ | error .. | fault .. => "object"

/-- The members of a value, where it has any. -/
def Value.members? : Value → Option (List (String × Value))
  | .record ms => some ms
  | .locale _ | .error .. | .fault .. => some []
  | _ => none

/-- A value of another kind than the expected one; one that is absent is missed. -/
def mismatch (path expected : String) (v : Value) : SettingIssue :=
  ⟨path, match v with
    | .undefined => "Required"
    | v => "Expected " ++ expected ++ ", received " ++ v.kind⟩

/-- What is wrong with a number as an integer between two bounds. -/
def boundIssues (least most : Nat) (x : Number.Double) : List String :=
  (if x.toInt?.isSome then [] else ["Expected integer, received float"])
    ++ (if x.lt (.ofInt least) then
      ["Number must be greater than or equal to " ++ Number.intText least] else [])
    ++ (if (Number.Double.ofInt most).lt x then
      ["Number must be less than or equal to " ++ Number.intText most] else [])

/-- Names to choose from, in words. -/
def choicesInWords (names : List String) : String :=
  String.intercalate " | " (names.map fun name => "'" ++ name ++ "'")

/-! ### Rules -/

/-- How values of each kind are checked.  This is all that is known of it. -/
structure SchemaRules where
  /-- a text with tests, each of which may have something to say -/
  text : List (String → Option String) → String → Value → Checked String
  /-- an integer between two bounds -/
  integer : Nat → Nat → String → Value → Checked Number.Double
  /-- one of some names -/
  choice : List String → String → Value → Checked String
  /-- what is checked, or null -/
  nullable : {α : Type} → (String → Value → Checked α) → String → Value → Checked (Option α)
  /-- a list of what is checked, one at least; with what to say of an empty one -/
  list : {α : Type} → String → (String → Value → Checked α) → String → Value → Checked (List α)
  /-- an object, by its members -/
  record : {α : Type} → (List (String × Value) → Checked α) → String → Value → Checked α
  /-- every test has its say, whatever the ones before it said -/
  text_text : ∀ {tests path s}, text tests path (.text s)
    = .withIssues ((tests.filterMap fun test => test s).map (SettingIssue.mk path)) s
  text_other : ∀ {tests path v}, (∀ s, v ≠ .text s) →
    text tests path v = .error [mismatch path "string" v]
  integer_number : ∀ {least most path x}, x ≠ .nan → integer least most path (.number x)
    = .withIssues ((boundIssues least most x).map (SettingIssue.mk path)) x
  /-- what is no number is not taken for one -/
  integer_other : ∀ {least most path v}, (∀ x, v = .number x → x = .nan) →
    integer least most path v = .error [mismatch path "number" v]
  choice_known : ∀ {names path name}, name ∈ names → choice names path (.text name) = .ok name
  choice_unknown : ∀ {names path name}, name ∉ names → choice names path (.text name)
    = .error [⟨path, "Invalid enum value. Expected " ++ choicesInWords names ++ ", received '"
        ++ name ++ "'"⟩]
  choice_other : ∀ {names path v}, (∀ s, v ≠ .text s) →
    choice names path v = .error [mismatch path (choicesInWords names) v]
  nullable_null : ∀ {α : Type} {check : String → Value → Checked α} {path},
    nullable check path .null = .ok none
  nullable_other : ∀ {α : Type} {check : String → Value → Checked α} {path v}, v ≠ .null →
    nullable check path v = (check path v).map some
  list_nil : ∀ {α : Type} {message} {check : String → Value → Checked α} {path},
    list message check path (.list []) = .error [⟨path, message⟩]
  /-- every item is checked under its place -/
  list_cons : ∀ {α : Type} {message} {check : String → Value → Checked α} {path v vs},
    list message check path (.list (v :: vs)) = Checked.all ((v :: vs).mapIdx fun place v =>
      check (path ++ "." ++ Number.intText place) v)
  list_other : ∀ {α : Type} {message} {check : String → Value → Checked α} {path v},
    (∀ vs, v ≠ .list vs) → list message check path v = .error [mismatch path "array" v]
  record_members : ∀ {α : Type} {check : List (String × Value) → Checked α} {path v ms},
    v.members? = some ms → record check path v = check ms
  record_other : ∀ {α : Type} {check : List (String × Value) → Checked α} {path v},
    v.members? = none → record check path v = .error [mismatch path "object" v]

/-- The rules, as they are carried out. -/
def schemaRules : SchemaRules where
  text tests path
    | .text s => .withIssues ((tests.filterMap fun test => test s).map (SettingIssue.mk path)) s
    | v => .error [mismatch path "string" v]
  integer least most path
    | .number .nan => .error [mismatch path "number" (.number .nan)]
    | .number x => .withIssues ((boundIssues least most x).map (SettingIssue.mk path)) x
    | v => .error [mismatch path "number" v]
  choice names path
    | .text name =>
      if name ∈ names then .ok name
      else .error [⟨path, "Invalid enum value. Expected " ++ choicesInWords names ++ ", received '"
        ++ name ++ "'"⟩]
    | v => .error [mismatch path (choicesInWords names) v]
  nullable check path
    | .null => .ok none
    | v => (check path v).map some
  list message check path
    | .list [] => .error [⟨path, message⟩]
    | .list vs => Checked.all (vs.mapIdx fun place v =>
        check (path ++ "." ++ Number.intText place) v)
    | v => .error [mismatch path "array" v]
  record check path v :=
    match v.members? with
    | some ms => check ms
    | none => .error [mismatch path "object" v]
  text_text := rfl
  text_other {tests path v} hv := by
    cases v with
    | text s => exact absurd rfl (hv s)
    | _ => rfl
  integer_number {least most path x} hx := by
    cases x with
    | nan => exact absurd rfl hx
    | _ => rfl
  integer_other {least most path v} hv := by
    cases v with
    | number x =>
      rw [hv x rfl]
    | _ => rfl
  choice_known h := if_pos h
  choice_unknown h := if_neg h
  choice_other {names path v} hv := by
    cases v with
    | text s => exact absurd rfl (hv s)
    | _ => rfl
  nullable_null := rfl
  nullable_other {α check path v} hv := by
    cases v with
    | null => exact absurd rfl hv
    | _ => rfl
  list_nil := rfl
  list_cons := rfl
  list_other {α message check path v} hv := by
    cases v with
    | list vs => exact absurd rfl (hv vs)
    | _ => rfl
  record_members h := by simp only [h]
  record_other h := by simp only [h]

end Phrasebook

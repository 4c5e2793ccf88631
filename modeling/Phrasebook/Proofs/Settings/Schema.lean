import Mathlib.Data.List.Basic
import Phrasebook.Proofs.Rows
import Phrasebook.Settings.Schema

namespace Phrasebook

/-!
# What a schema lets through

Each kind of check passes some values and has issues with the others, which it states under the path
of the value.  All of it follows from the laws of the rules.

* `Checked.both_eq_ok_iff`, `Checked.all_eq_ok_iff`: parts pass when each of them does.
* `Checked.issues_both`, `Checked.issues_all`: what is wrong with parts is what is wrong with each.
* `Checked.Telling`, `Checked.issues_eq_nil_iff`: no check fails without a word, so a value passes
  if and only if nothing is wrong with it.
* `SchemaRules.text_eq_ok_iff` and its like: which values pass, by kind.
* `SchemaRules.path_of_mem_text` and its like: where the issues are.
-/

namespace Checked

variable {α β : Type}

/-- A check that fails says why. -/
def Telling (c : Checked α) : Prop :=
  c ≠ .error []

/-- A value passes if and only if nothing is wrong with it. -/
theorem issues_eq_nil_iff {c : Checked α} (h : c.Telling) : c.issues = [] ↔ ∃ a, c = .ok a := by
  cases c with
  | ok a => exact ⟨fun _ => ⟨a, rfl⟩, fun _ => rfl⟩
  | error is =>
    refine iff_of_false (fun hnil => h ?_) (by simp)
    rw [show is = [] from hnil]

/-- A value passes just where there are no issues with it. -/
theorem withIssues_eq_ok_iff {is : List SettingIssue} {a b : α} :
    withIssues is a = .ok b ↔ is = [] ∧ a = b := by
  cases is with
  | nil => simp [withIssues]
  | cons i is => simp [withIssues]

/-- A check by its issues says what is wrong. -/
theorem telling_withIssues (is : List SettingIssue) (a : α) : (withIssues is a).Telling := by
  cases is with
  | nil => exact fun h => nomatch h
  | cons i is => exact fun h => nomatch h

/-- A check by its issues has these issues. -/
theorem issues_withIssues (is : List SettingIssue) (a : α) : (withIssues is a).issues = is := by
  cases is with
  | nil => rfl
  | cons i is => rfl

/-- A value that is taken for something else passes as that. -/
theorem map_eq_ok_iff {f : α → β} {c : Checked α} {b : β} :
    (c.map f : Checked β) = .ok b ↔ ∃ a, c = .ok a ∧ f a = b := by
  cases c with
  | ok a =>
    constructor
    · intro h
      exact ⟨a, rfl, Except.ok.inj h⟩
    · rintro ⟨a', h, rfl⟩
      rw [Except.ok.inj h]
      rfl
  | error is => exact iff_of_false (fun h => nomatch h) (by simp)

/-- What is made of a value leaves the issues with it as they are. -/
theorem issues_map (f : α → β) (c : Checked α) : Checked.issues (c.map f) = c.issues := by
  cases c <;> rfl

/-- So it still says what is wrong. -/
theorem Telling.map {c : Checked α} (h : c.Telling) (f : α → β) :
    Telling (c.map f : Checked β) := by
  cases c with
  | ok a => exact fun h => nomatch h
  | error is => exact fun hmap => h (congrArg Except.error (Except.error.inj hmap))

/-! ### Parts -/

/-- Two parts pass when each of them does. -/
theorem both_eq_ok_iff {a : Checked α} {b : Checked β} {p : α × β} :
    both a b = .ok p ↔ a = .ok p.1 ∧ b = .ok p.2 := by
  obtain ⟨x, y⟩ := p
  cases a <;> cases b <;> simp [both]

/-- Two checks have the issues of the first and then those of the second. -/
theorem issues_both (a : Checked α) (b : Checked β) :
    (both a b).issues = a.issues ++ b.issues := by
  cases a <;> cases b <;> rfl

/-- Two checks say what is wrong if each does. -/
theorem Telling.both {a : Checked α} {b : Checked β} (ha : a.Telling) (hb : b.Telling) :
    (Checked.both a b).Telling := by
  intro herror
  have hissues := issues_both a b
  rw [herror] at hissues
  obtain ⟨ha', hb'⟩ := List.append_eq_nil_iff.1 hissues.symm
  obtain ⟨x, rfl⟩ := (issues_eq_nil_iff ha).1 ha'
  obtain ⟨y, rfl⟩ := (issues_eq_nil_iff hb).1 hb'
  exact absurd herror (fun h => nomatch h)

/-- Parts in a row pass when each of them does. -/
theorem all_eq_ok_iff {cs : List (Checked α)} {as : List α} :
    all cs = .ok as ↔ cs = as.map .ok := by
  induction cs generalizing as with
  | nil =>
    rw [all, Except.ok.injEq]
    constructor
    · rintro rfl
      rfl
    · exact fun h => (List.map_eq_nil_iff.1 h.symm).symm
  | cons c cs ih =>
    rw [all, map_eq_ok_iff]
    constructor
    · rintro ⟨p, hp, rfl⟩
      obtain ⟨rfl, htail⟩ := both_eq_ok_iff.1 hp
      rw [List.map_cons, ih.1 htail]
    · intro h
      obtain ⟨a, as', rfl, rfl, htail⟩ := List.map_eq_cons_iff.1 h.symm
      exact ⟨(a, as'), both_eq_ok_iff.2 ⟨rfl, ih.2 htail.symm⟩, rfl⟩

/-- A row of checks has the issues of each in turn. -/
theorem issues_all (cs : List (Checked α)) : (all cs).issues = cs.flatMap issues := by
  induction cs with
  | nil => rfl
  | cons c cs ih => rw [all, issues_map, issues_both, ih, List.flatMap_cons]

/-- A row of checks says what is wrong if each does. -/
theorem telling_all {cs : List (Checked α)} (h : ∀ c ∈ cs, c.Telling) : (all cs).Telling := by
  induction cs with
  | nil => exact fun h => nomatch h
  | cons c cs ih =>
    obtain ⟨hc, hcs⟩ := List.forall_mem_cons.1 h
    exact (hc.both (ih hcs)).map _

end Checked

/-! ### Values by their kinds -/

namespace SchemaRules

open Checked

variable {path : String} {v : Value}

/-- A text passes when no test has anything to say. -/
theorem text_eq_ok_iff {tests : List (String → Option String)} {s : String} :
    schemaRules.text tests path v = .ok s ↔ v = .text s ∧ ∀ test ∈ tests, test s = none := by
  by_cases hv : ∃ t, v = .text t
  · obtain ⟨t, rfl⟩ := hv
    rw [schemaRules.text_text, withIssues_eq_ok_iff, List.map_eq_nil_iff,
      List.filterMap_eq_nil_iff, Value.text.injEq, and_comm]
    refine and_congr_right ?_
    rintro rfl
    exact Iff.rfl
  · rw [schemaRules.text_other fun t ht => hv ⟨t, ht⟩]
    exact iff_of_false (by simp) fun h => hv ⟨s, h.1⟩

/-- The check of a text says what is wrong. -/
theorem telling_text (tests : List (String → Option String)) (path : String) (v : Value) :
    (schemaRules.text tests path v).Telling := by
  by_cases hv : ∃ t, v = .text t
  · obtain ⟨t, rfl⟩ := hv
    rw [schemaRules.text_text]
    exact telling_withIssues _ _
  · rw [schemaRules.text_other fun t ht => hv ⟨t, ht⟩]
    exact fun h => nomatch h

/-- What is wrong with a text is wrong at its path. -/
theorem path_of_mem_text {tests : List (String → Option String)} {i : SettingIssue}
    (h : i ∈ (schemaRules.text tests path v).issues) : i.path = path := by
  by_cases hv : ∃ t, v = .text t
  · obtain ⟨t, rfl⟩ := hv
    rw [schemaRules.text_text, issues_withIssues] at h
    obtain ⟨m, -, rfl⟩ := List.mem_map.1 h
    rfl
  · rw [schemaRules.text_other fun t ht => hv ⟨t, ht⟩] at h
    exact congrArg SettingIssue.path (List.mem_singleton.1 h)

/-- A number passes as an integer when nothing is wrong with it. -/
theorem integer_eq_ok_iff {least most : Nat} {x : Number.Double} :
    schemaRules.integer least most path v = .ok x ↔
      v = .number x ∧ x ≠ .nan ∧ boundIssues least most x = [] := by
  by_cases hv : ∃ y, v = .number y ∧ y ≠ .nan
  · obtain ⟨y, rfl, hy⟩ := hv
    rw [schemaRules.integer_number hy, withIssues_eq_ok_iff, List.map_eq_nil_iff,
      Value.number.injEq, and_comm]
    refine and_congr_right ?_
    rintro rfl
    exact (and_iff_right hy).symm
  · have hnan : ∀ y, v = .number y → y = .nan :=
      fun y hy => by_contra fun hne => hv ⟨y, hy, hne⟩
    rw [schemaRules.integer_other hnan]
    exact iff_of_false (by simp) fun h => h.2.1 (hnan x h.1)

/-- The check of an integer says what is wrong. -/
theorem telling_integer (least most : Nat) (path : String) (v : Value) :
    (schemaRules.integer least most path v).Telling := by
  by_cases hv : ∃ y, v = .number y ∧ y ≠ .nan
  · obtain ⟨y, rfl, hy⟩ := hv
    rw [schemaRules.integer_number hy]
    exact telling_withIssues _ _
  · rw [schemaRules.integer_other fun y hy => by_contra fun hne => hv ⟨y, hy, hne⟩]
    exact fun h => nomatch h

/-- What is wrong with an integer is wrong at its path. -/
theorem path_of_mem_integer {least most : Nat} {i : SettingIssue}
    (h : i ∈ (schemaRules.integer least most path v).issues) : i.path = path := by
  by_cases hv : ∃ y, v = .number y ∧ y ≠ .nan
  · obtain ⟨y, rfl, hy⟩ := hv
    rw [schemaRules.integer_number hy, issues_withIssues] at h
    obtain ⟨m, -, rfl⟩ := List.mem_map.1 h
    rfl
  · rw [schemaRules.integer_other fun y hy => by_contra fun hne => hv ⟨y, hy, hne⟩] at h
    exact congrArg SettingIssue.path (List.mem_singleton.1 h)

/-- A text passes as a choice when it is one of the names. -/
theorem choice_eq_ok_iff {names : List String} {name : String} :
    schemaRules.choice names path v = .ok name ↔ v = .text name ∧ name ∈ names := by
  by_cases hv : ∃ t, v = .text t
  · obtain ⟨t, rfl⟩ := hv
    rw [Value.text.injEq]
    by_cases ht : t ∈ names
    · rw [schemaRules.choice_known ht, Except.ok.injEq]
      refine (and_iff_left_of_imp ?_).symm
      rintro rfl
      exact ht
    · rw [schemaRules.choice_unknown ht]
      refine iff_of_false (by simp) ?_
      rintro ⟨rfl, hname⟩
      exact ht hname
  · rw [schemaRules.choice_other fun t ht => hv ⟨t, ht⟩]
    exact iff_of_false (by simp) fun h => hv ⟨name, h.1⟩

/-- The check of a choice says what is wrong. -/
theorem telling_choice (names : List String) (path : String) (v : Value) :
    (schemaRules.choice names path v).Telling := by
  by_cases hv : ∃ t, v = .text t
  · obtain ⟨t, rfl⟩ := hv
    by_cases ht : t ∈ names
    · rw [schemaRules.choice_known ht]
      exact fun h => nomatch h
    · rw [schemaRules.choice_unknown ht]
      exact fun h => nomatch h
  · rw [schemaRules.choice_other fun t ht => hv ⟨t, ht⟩]
    exact fun h => nomatch h

/-- What is wrong with a choice is wrong at its path. -/
theorem path_of_mem_choice {names : List String} {i : SettingIssue}
    (h : i ∈ (schemaRules.choice names path v).issues) : i.path = path := by
  by_cases hv : ∃ t, v = .text t
  · obtain ⟨t, rfl⟩ := hv
    by_cases ht : t ∈ names
    · rw [schemaRules.choice_known ht] at h
      exact absurd h List.not_mem_nil
    · rw [schemaRules.choice_unknown ht] at h
      rw [List.mem_singleton.1 h]
  · rw [schemaRules.choice_other fun t ht => hv ⟨t, ht⟩] at h
    exact congrArg SettingIssue.path (List.mem_singleton.1 h)

/-! ### Lists -/

variable {α : Type} {message : String} {check : String → Value → Checked α}

/-- Values in a row pass, each under its place, when they state what passes. -/
theorem mapIdx_eq_map_ok_iff {state : α → Value} {good : α → Prop} {f : Nat → Value → Checked α}
    (hf : ∀ place v a, f place v = .ok a ↔ v = state a ∧ good a) {vs : List Value} {as : List α} :
    vs.mapIdx f = as.map .ok ↔ vs = as.map state ∧ ∀ a ∈ as, good a := by
  induction vs generalizing f as with
  | nil =>
    rw [List.mapIdx_nil, List.nil_eq, List.map_eq_nil_iff, List.nil_eq, List.map_eq_nil_iff]
    refine (and_iff_left_of_imp ?_).symm
    rintro rfl
    exact List.forall_mem_nil _
  | cons v vs ih =>
    cases as with
    | nil => simp
    | cons a as =>
      rw [List.mapIdx_cons, List.map_cons, List.map_cons, List.cons.injEq, List.cons.injEq, hf,
        ih fun place => hf (place + 1), List.forall_mem_cons, and_and_and_comm]

/-- A list passes when it states what passes, and one item at least. -/
theorem list_eq_ok_iff {state : α → Value} {good : α → Prop}
    (hcheck : ∀ path v a, check path v = .ok a ↔ v = state a ∧ good a) {as : List α} :
    schemaRules.list message check path v = .ok as ↔
      v = .list (as.map state) ∧ as ≠ [] ∧ ∀ a ∈ as, good a := by
  by_cases hv : ∃ vs, v = .list vs
  · obtain ⟨vs, rfl⟩ := hv
    rw [Value.list.injEq]
    cases vs with
    | nil =>
      rw [schemaRules.list_nil]
      refine iff_of_false (by simp) ?_
      rintro ⟨hnil, hne, -⟩
      exact hne (List.map_eq_nil_iff.1 hnil.symm)
    | cons v vs =>
      rw [schemaRules.list_cons, all_eq_ok_iff, mapIdx_eq_map_ok_iff fun _ => hcheck _]
      refine and_congr_right fun hvs => (and_iff_right ?_).symm
      rintro rfl
      exact absurd hvs (by simp)
  · rw [schemaRules.list_other fun vs hvs => hv ⟨vs, hvs⟩]
    exact iff_of_false (by simp) fun h => hv ⟨_, h.1⟩

/-- The check of a list says what is wrong if that of its items does. -/
theorem telling_list (hcheck : ∀ path v, (check path v).Telling) (message path : String)
    (v : Value) : (schemaRules.list message check path v).Telling := by
  by_cases hv : ∃ vs, v = .list vs
  · obtain ⟨vs, rfl⟩ := hv
    cases vs with
    | nil =>
      rw [schemaRules.list_nil]
      exact fun h => nomatch h
    | cons v vs =>
      rw [schemaRules.list_cons]
      refine telling_all fun c hc => ?_
      obtain ⟨place, hplace, rfl⟩ := List.mem_mapIdx.1 hc
      exact hcheck _ _
  · rw [schemaRules.list_other fun vs hvs => hv ⟨vs, hvs⟩]
    exact fun h => nomatch h

/-- What is wrong with a list is wrong with all of it, or with an item at its place. -/
theorem path_of_mem_list (hcheck : ∀ {path v i}, i ∈ (check path v).issues → i.path = path)
    {i : SettingIssue} (h : i ∈ (schemaRules.list message check path v).issues) :
    i.path = path ∨ ∃ place : Nat, i.path = path ++ "." ++ Number.intText place := by
  by_cases hv : ∃ vs, v = .list vs
  · obtain ⟨vs, rfl⟩ := hv
    cases vs with
    | nil =>
      rw [schemaRules.list_nil] at h
      exact Or.inl (by rw [List.mem_singleton.1 h])
    | cons v vs =>
      rw [schemaRules.list_cons, issues_all] at h
      obtain ⟨c, hc, hi⟩ := List.mem_flatMap.1 h
      obtain ⟨place, hplace, rfl⟩ := List.mem_mapIdx.1 hc
      exact Or.inr ⟨place, hcheck hi⟩
  · rw [schemaRules.list_other fun vs hvs => hv ⟨vs, hvs⟩] at h
    exact Or.inl (congrArg SettingIssue.path (List.mem_singleton.1 h))

end SchemaRules

end Phrasebook

import Phrasebook.Proofs.Settings.RoundTrip

namespace Phrasebook

/-!
# What is wrong with settings

A check of a setting that fails says why, and under which name.

* `Settings.checkTag_issues_eq_nil_iff` and its like: when nothing is wrong with a single setting.
* `Settings.path_of_mem_checkTag` and its like: the names under which issues are stated.
* `Settings.issues_checkMembers`: the issues of all settings together.
* `Settings.testThenRead_eq`: a tag that the test lets through can be read.
-/

open Number (Double)

namespace Settings

/-! ### Single settings -/

/-- The check of a locale says what is wrong. -/
theorem telling_checkLocale (path : String) (v : Value) : (checkLocale path v).Telling :=
  (SchemaRules.telling_text _ path v).map _

/-- The check of a tag says what is wrong. -/
theorem telling_checkTag (path tag : String) : (checkTag path tag).Telling :=
  telling_checkLocale path (.text tag)

/-- What is wrong with a tag is wrong at its path. -/
theorem path_of_mem_checkTag {path tag : String} {i : SettingIssue}
    (h : i ∈ (checkTag path tag).issues) : i.path = path := by
  rw [checkTag, checkLocale, Checked.issues_map] at h
  exact SchemaRules.path_of_mem_text h

/-- Nothing is wrong with the tags of locales. -/
theorem checkTag_issues_eq_nil_iff (path tag : String) :
    (checkTag path tag).issues = [] ↔ ∃ l, Locale.ofTag? tag = some l := by
  rw [Checked.issues_eq_nil_iff (telling_checkTag path tag)]
  exact exists_congr fun l => checkTag_eq_ok_iff path tag l

/-- What is wrong with a tag is what its two tests say. -/
theorem issues_checkTag_eq (path tag : String) : (checkTag path tag).issues
    = ([ifEmpty "locale tag is required", ifUnknown].filterMap fun test => test tag).map
        (SettingIssue.mk path) := by
  rw [checkTag, checkLocale, Checked.issues_map, schemaRules.text_text, Checked.issues_withIssues]

/-- The issues with a tag are the same under every name. -/
theorem issues_checkTag (path path' tag : String) :
    (checkTag path tag).issues
      = (checkTag path' tag).issues.map fun i => { i with path := path } := by
  rw [issues_checkTag_eq, issues_checkTag_eq, List.map_map]
  rfl

/-- The check of a fallback says what is wrong. -/
theorem telling_checkFallback (path : String) (fallback : Option String) :
    (checkFallback path ((fallback.map Value.text).getD .null)).Telling := by
  cases fallback with
  | none =>
    show (checkFallback path .null).Telling
    rw [checkFallback, schemaRules.nullable_null]
    exact fun h => nomatch h
  | some tag =>
    show (checkFallback path (.text tag)).Telling
    rw [checkFallback_text]
    exact (telling_checkTag path tag).map some

/-- The check of an extension says what is wrong. -/
theorem telling_checkExtension (path : String) (v : Value) : (checkExtension path v).Telling :=
  SchemaRules.telling_text _ path v

/-- The check of extensions says what is wrong. -/
theorem telling_checkExtensions (path : String) (v : Value) : (checkExtensions path v).Telling :=
  SchemaRules.telling_list telling_checkExtension _ path v

/-- What is wrong with extensions is told of them all, or of one at its place. -/
theorem path_of_mem_checkExtensions {path : String} {v : Value} {i : SettingIssue}
    (h : i ∈ (checkExtensions path v).issues) :
    i.path = path ∨ ∃ place : Nat, i.path = path ++ "." ++ Number.intText place :=
  SchemaRules.path_of_mem_list SchemaRules.path_of_mem_text h

/-- Nothing is wrong with extensions of the right form, if there is one. -/
theorem checkExtensions_issues_eq_nil_iff (path : String) (es : List String) :
    (checkExtensions path (.list (es.map .text))).issues = [] ↔
      es ≠ [] ∧ ∀ e ∈ es, isExtension e = true := by
  rw [Checked.issues_eq_nil_iff (telling_checkExtensions _ _)]
  constructor
  · rintro ⟨es', h⟩
    obtain ⟨hvalue, hne, hall⟩ := (checkExtensions_eq_ok_iff _ _ _).1 h
    have hsame : es = es' :=
      (List.map_injective_iff.2 fun a b hab => Value.text.inj hab) (Value.list.inj hvalue)
    rw [hsame]
    exact ⟨hne, hall⟩
  · rintro ⟨hne, hall⟩
    exact ⟨es, (checkExtensions_eq_ok_iff _ _ _).2 ⟨rfl, hne, hall⟩⟩

/-- The check of a size says what is wrong. -/
theorem telling_checkCacheSize (path : String) (v : Value) : (checkCacheSize path v).Telling :=
  (SchemaRules.telling_integer _ _ path v).map _

/-- What is wrong with a size is wrong at its path. -/
theorem path_of_mem_checkCacheSize {path : String} {v : Value} {i : SettingIssue}
    (h : i ∈ (checkCacheSize path v).issues) : i.path = path := by
  rw [checkCacheSize, Checked.issues_map] at h
  exact SchemaRules.path_of_mem_integer h

/-- Nothing is wrong with the integers within the bounds. -/
theorem checkCacheSize_issues_eq_nil_iff (path : String) (x : Double) :
    (checkCacheSize path (.number x)).issues = [] ↔
      ∃ n : Int, x.toInt? = some n ∧ 1 ≤ n ∧ n ≤ 1000000 := by
  rw [Checked.issues_eq_nil_iff (telling_checkCacheSize _ _)]
  unfold checkCacheSize
  simp only [Checked.map_eq_ok_iff, SchemaRules.integer_eq_ok_iff, sizeIssues_eq_nil_iff]
  constructor
  · rintro ⟨n, y, ⟨hy, -, hissues⟩, -⟩
    rwa [Value.number.inj hy]
  · intro hissues
    refine ⟨_, x, ⟨rfl, ?_, hissues⟩, rfl⟩
    rintro rfl
    obtain ⟨n, hn, -⟩ := hissues
    exact absurd hn (by simp [Double.toInt?])

/-- The check of a level says what is wrong. -/
theorem telling_checkLevel (path : String) (v : Value) : (checkLevel path v).Telling :=
  (SchemaRules.telling_choice _ path v).map _

/-- What is wrong with a level is wrong at its path. -/
theorem path_of_mem_checkLevel {path : String} {v : Value} {i : SettingIssue}
    (h : i ∈ (checkLevel path v).issues) : i.path = path := by
  rw [checkLevel, Checked.issues_map] at h
  exact SchemaRules.path_of_mem_choice h

/-- Nothing is wrong with the names of severities. -/
theorem checkLevel_issues_eq_nil_iff (path name : String) :
    (checkLevel path (.text name)).issues = [] ↔ ∃ severity : Severity, name = severity.name := by
  rw [Checked.issues_eq_nil_iff (telling_checkLevel _ _)]
  refine exists_congr fun severity => ?_
  rw [checkLevel_eq_ok_iff, Value.text.injEq]

/-! ### All settings -/

/-- What is wrong with members is told setting by setting. -/
theorem issues_checkMembers (ms : List (String × Value)) :
    (checkMembers ms).issues
      = (checkLocale names.defaultLocale (statedIn ms names.defaultLocale)).issues
      ++ (checkFallback names.fallback (statedIn ms names.fallback)).issues
      ++ (checkDirectory names.directory (statedIn ms names.directory)).issues
      ++ (checkExtensions names.extensions (statedIn ms names.extensions)).issues
      ++ (checkCacheSize names.cacheSize (statedIn ms names.cacheSize)).issues
      ++ (checkLevel names.level (statedIn ms names.level)).issues := by
  unfold checkMembers statedIn
  simp only [Checked.issues_map, Checked.issues_both, List.append_assoc]

/-! ### Strict reading -/

/-- What is wrong with a tag. -/
def tagIssues (path tag : String) : List SettingIssue :=
  (if tag.isEmpty then [⟨path, "locale tag is required"⟩] else [])
    ++ (if (Locale.ofTag? tag).isSome then []
      else [⟨path, "'" ++ tag ++ "' is not a known locale"⟩])

/-- A tag that is tested, and then read strictly if nothing is wrong with it.  The strict reading
    has a fault of its own for an unknown tag. -/
def testThenRead (path tag : String) : Except Fault (Checked Locale) :=
  match tagIssues path tag with
  | [] => (localeOfTag tag).map .ok
  | is => .ok (.error is)

/-- What the tests of a tag have to say. -/
theorem tagIssues_eq (path tag : String) : tagIssues path tag = (checkTag path tag).issues := by
  rw [issues_checkTag_eq, tagIssues]
  cases hempty : tag.isEmpty <;> cases hknown : (Locale.ofTag? tag).isSome <;>
    simp [ifEmpty, ifUnknown, hempty, hknown]

/-- A tag that the test lets through can be read, so testing and reading in one come to the same. -/
theorem testThenRead_eq (path tag : String) : testThenRead path tag = .ok (checkTag path tag) := by
  unfold testThenRead
  rw [tagIssues_eq]
  cases hcheck : checkTag path tag with
  | ok l =>
    have hread : localeOfTag tag = .ok l := by
      rw [localeOfTag, (checkTag_eq_ok_iff path tag l).1 hcheck]
    show (localeOfTag tag).map Except.ok = .ok (.ok l)
    rw [hread]
    rfl
  | error is =>
    have htelling := telling_checkTag path tag
    rw [hcheck] at htelling
    cases is with
    | nil => exact absurd rfl htelling
    | cons i is => rfl

end Settings

end Phrasebook

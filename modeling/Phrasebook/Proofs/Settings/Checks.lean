import Phrasebook.Proofs.Number.Integers
import Phrasebook.Proofs.Settings.Schema
import Phrasebook.Proofs.Tags
import Phrasebook.Settings.Environment

namespace Phrasebook

/-!
# What passes the check of settings

A value passes the check when each of its settings does, and what comes out of the check passes it
again, unchanged.

* `Settings.Valid`: what is known of settings that were checked.
* `Settings.checkTag_eq_ok_iff` and its like: which values pass as a single setting.
* `Settings.checkMembers_eq_ok_iff`: all settings pass when each of them does.
* `Settings.valid_of_check`: what passes is valid.
* `Settings.check_toValue`: what is valid passes and comes out as it went in.
-/

open Number (Double)

/-- What is known of settings that were checked. -/
structure Settings.Valid (s : Settings) : Prop where
  directory : s.directory ≠ ""
  extensions_ne_nil : s.extensions ≠ []
  isExtension : ∀ e ∈ s.extensions, Settings.isExtension e = true
  cacheSize_pos : 1 ≤ s.cacheSize
  cacheSize_le : s.cacheSize ≤ Settings.maxCacheSize

namespace Settings

/-! ### Single settings -/

/-- The test for empty texts passes the others. -/
theorem ifEmpty_eq_none_iff {message text : String} : ifEmpty message text = none ↔ text ≠ "" := by
  rw [ifEmpty, ite_eq_right_iff, String.isEmpty_iff]
  simp

/-- The test for unknown tags passes those of a locale. -/
theorem ifUnknown_eq_none_iff {tag : String} :
    ifUnknown tag = none ↔ ∃ l, Locale.ofTag? tag = some l := by
  rw [ifUnknown, ← Option.isSome_iff_exists]
  split
  · next hsome => exact iff_of_true rfl hsome
  · next hnone => exact iff_of_false (by simp) hnone

/-- A locale passes by a tag of its own; the empty text is no tag. -/
theorem checkLocale_eq_ok_iff (path : String) (v : Value) (l : Locale) :
    checkLocale path v = .ok l ↔ ∃ tag, v = .text tag ∧ Locale.ofTag? tag = some l := by
  unfold checkLocale
  simp only [Checked.map_eq_ok_iff, SchemaRules.text_eq_ok_iff, List.forall_mem_cons,
    ifEmpty_eq_none_iff, ifUnknown_eq_none_iff]
  constructor
  · rintro ⟨tag, ⟨rfl, -, ⟨l', hl'⟩, -⟩, hl⟩
    rw [hl', Option.getD_some] at hl
    exact ⟨tag, rfl, hl ▸ hl'⟩
  · rintro ⟨tag, rfl, hl⟩
    refine ⟨tag, ⟨rfl, ?_, ⟨l, hl⟩, List.forall_mem_nil _⟩, by rw [hl, Option.getD_some]⟩
    rintro rfl
    exact absurd (hl.symm.trans Locale.ofTag?_empty) (by simp)

/-- A tag passes as the locale that it names. -/
theorem checkTag_eq_ok_iff (path tag : String) (l : Locale) :
    checkTag path tag = .ok l ↔ Locale.ofTag? tag = some l := by
  rw [checkTag, checkLocale_eq_ok_iff]
  simp

/-- The tag of a locale passes as that locale. -/
theorem checkLocale_tag (path : String) (l : Locale) :
    checkLocale path (.text l.tag) = .ok l :=
  (checkTag_eq_ok_iff path l.tag l).2 l.ofTag?_tag

/-- A fallback that is stated is checked as a tag. -/
theorem checkFallback_text (path tag : String) :
    checkFallback path (.text tag) = (checkTag path tag).map some :=
  schemaRules.nullable_other (by simp)

/-- The tag of a fallback passes as that locale, and none as none. -/
theorem checkFallback_tag (path : String) (o : Option Locale) :
    checkFallback path ((o.map fun l => Value.text l.tag).getD .null) = .ok o := by
  cases o with
  | none => exact schemaRules.nullable_null
  | some l =>
    show checkFallback path (.text l.tag) = .ok (some l)
    rw [checkFallback_text, checkTag, checkLocale_tag]
    rfl

/-- A directory passes if it is a text and not empty. -/
theorem checkDirectory_eq_ok_iff (path : String) (v : Value) (dir : String) :
    checkDirectory path v = .ok dir ↔ v = .text dir ∧ dir ≠ "" := by
  rw [checkDirectory, SchemaRules.text_eq_ok_iff, List.forall_mem_singleton, ifEmpty_eq_none_iff]

/-- An extension has one plain character at least, and no other characters. -/
theorem isExtension_iff (e : String) :
    isExtension e = true ↔ e ≠ "" ∧ ∀ c ∈ e.toList, Text.IsPlain c := by
  unfold isExtension Text.IsPlain
  simp only [Bool.and_eq_true, Bool.or_eq_true, decide_eq_true_eq, List.all_eq_true,
    Bool.not_eq_true', List.isEmpty_eq_false_iff, ne_eq, String.toList_eq_nil_iff]

/-- An extension passes if it is a text of the right form. -/
theorem checkExtension_eq_ok_iff (path : String) (v : Value) (e : String) :
    checkExtension path v = .ok e ↔ v = .text e ∧ isExtension e = true := by
  rw [checkExtension, SchemaRules.text_eq_ok_iff, List.forall_mem_singleton, ifNoExtension]
  refine and_congr_right fun _ => ?_
  split
  · next hext => exact iff_of_true rfl hext
  · next hext => exact iff_of_false (by simp) hext

/-- Extensions pass if there is one and each of them passes. -/
theorem checkExtensions_eq_ok_iff (path : String) (v : Value) (es : List String) :
    checkExtensions path v = .ok es ↔
      v = .list (es.map Value.text) ∧ es ≠ [] ∧ ∀ e ∈ es, isExtension e = true :=
  SchemaRules.list_eq_ok_iff checkExtension_eq_ok_iff

/-- Sizes within the bounds are safe integers. -/
theorem natAbs_le_maxSafe {n : Int} (hlow : 0 ≤ n) (hhigh : n ≤ maxCacheSize) :
    n.natAbs ≤ Double.maxSafe := by
  have hmax : Double.maxSafe = 2 ^ 53 - 1 := rfl
  have hsize : maxCacheSize = 1000000 := rfl
  omega

/-- The numbers that nothing is wrong with are the integers between the bounds. -/
theorem boundIssues_eq_nil_iff {least most : Nat} (hleast : least ≤ Double.maxSafe)
    (hmost : most ≤ Double.maxSafe) (x : Double) :
    boundIssues least most x = [] ↔
      ∃ n : Int, x.toInt? = some n ∧ least ≤ n ∧ n ≤ most := by
  -- the bounds are safe, hence exact as numbers
  have hleast : (Double.ofInt least).toInt? = some (least : Int) :=
    Double.toInt?_ofInt (by omega)
  have hmost : (Double.ofInt most).toInt? = some (most : Int) := Double.toInt?_ofInt (by omega)
  unfold boundIssues
  rw [List.append_eq_nil_iff, List.append_eq_nil_iff]
  cases hx : x.toInt? with
  -- simp => a size that is no integer has an issue of its own
  | none => simp
  | some n =>
    have hlow := Double.lt_iff_of_toInt? hx hleast
    have hhigh := Double.lt_iff_of_toInt? hmost hx
    constructor
    · rintro ⟨⟨-, hlower⟩, hupper⟩
      refine ⟨n, rfl, ?_, ?_⟩
      · by_contra hlt
        rw [if_pos (hlow.2 (by omega))] at hlower
        exact absurd hlower (by simp)
      · by_contra hlt
        rw [if_pos (hhigh.2 (by omega))] at hupper
        exact absurd hupper (by simp)
    · rintro ⟨m, hm, hge, hle⟩
      cases hm
      refine ⟨⟨rfl, if_neg ?_⟩, if_neg ?_⟩
      · rw [hlow]
        omega
      · rw [hhigh]
        omega

/-- The sizes that pass are those from one to the greatest size. -/
theorem sizeIssues_eq_nil_iff (x : Double) :
    boundIssues 1 maxCacheSize x = [] ↔
      ∃ n : Int, x.toInt? = some n ∧ 1 ≤ n ∧ n ≤ maxCacheSize :=
  boundIssues_eq_nil_iff (by decide) (by decide) x

/-- A size passes if it is an integer within the bounds. -/
theorem checkCacheSize_eq_ok_iff (path : String) (v : Value) (n : Nat) :
    checkCacheSize path v = .ok n ↔ v = .number (.ofInt n) ∧ 1 ≤ n ∧ n ≤ maxCacheSize := by
  have hsafe : n ≤ maxCacheSize → (n : Int).natAbs ≤ Double.maxSafe :=
    fun hn => natAbs_le_maxSafe (by omega) (by omega)
  unfold checkCacheSize
  simp only [Checked.map_eq_ok_iff, SchemaRules.integer_eq_ok_iff, sizeIssues_eq_nil_iff]
  constructor
  · rintro ⟨x, ⟨rfl, -, m, hm, hlow, hhigh⟩, hn⟩
    rw [hm, Option.getD_some] at hn
    have hmn : (n : Int) = m := by omega
    rw [← hmn] at hm
    have hle : n ≤ maxCacheSize := by omega
    exact ⟨congrArg Value.number ((Double.toInt?_eq_some_iff (hsafe hle) x).1 hm), by omega, hle⟩
  · rintro ⟨rfl, hlow, hhigh⟩
    have hm : (Double.ofInt n).toInt? = some (n : Int) := Double.toInt?_ofInt (hsafe hhigh)
    refine ⟨.ofInt n, ⟨rfl, ?_, n, hm, by omega, by omega⟩, ?_⟩
    · -- what is no number is no integer
      intro hnan
      rw [hnan] at hm
      exact absurd hm (by simp [Double.toInt?])
    · rw [hm, Option.getD_some, Int.toNat_natCast]

/-- A severity is found under its name, and under no other. -/
theorem ofName?_eq_some_iff (name : String) (s : Severity) :
    Severity.ofName? name = some s ↔ name = s.name := by
  constructor
  · intro h
    unfold Severity.ofName? at h
    have hname := List.find?_some h
    exact (of_decide_eq_true hname).symm
  · rintro rfl
    cases s <;> rfl

/-- The names of levels are those of the severities. -/
theorem mem_levelNames_iff {name : String} : name ∈ levelNames ↔ ∃ s : Severity, name = s.name := by
  rw [levelNames, List.mem_map]
  constructor
  · rintro ⟨s, -, rfl⟩
    exact ⟨s, rfl⟩
  · rintro ⟨s, rfl⟩
    exact ⟨s, by cases s <;> decide, rfl⟩

/-- A level passes if it is the name of a severity. -/
theorem checkLevel_eq_ok_iff (path : String) (v : Value) (s : Severity) :
    checkLevel path v = .ok s ↔ v = .text s.name := by
  have hname : ∀ s : Severity, Severity.ofName? s.name = some s :=
    fun s => (ofName?_eq_some_iff s.name s).2 rfl
  unfold checkLevel
  simp only [Checked.map_eq_ok_iff, SchemaRules.choice_eq_ok_iff, mem_levelNames_iff]
  constructor
  · rintro ⟨name, ⟨rfl, s', rfl⟩, hs⟩
    rw [hname, Option.getD_some] at hs
    rw [hs]
  · rintro rfl
    exact ⟨s.name, ⟨rfl, s, rfl⟩, by rw [hname, Option.getD_some]⟩

/-! ### All settings -/

/-- The value that is stated under a name. -/
def statedIn (ms : List (String × Value)) (name : String) : Value :=
  (lookupEntry name ms).getD .undefined

/-- All settings pass when each of them does. -/
theorem checkMembers_eq_ok_iff (ms : List (String × Value)) (s : Settings) :
    checkMembers ms = .ok s ↔
      checkLocale names.defaultLocale (statedIn ms names.defaultLocale) = .ok s.defaultLocale ∧
      checkFallback names.fallback (statedIn ms names.fallback) = .ok s.fallback ∧
      checkDirectory names.directory (statedIn ms names.directory) = .ok s.directory ∧
      checkExtensions names.extensions (statedIn ms names.extensions) = .ok s.extensions ∧
      checkCacheSize names.cacheSize (statedIn ms names.cacheSize) = .ok s.cacheSize ∧
      checkLevel names.level (statedIn ms names.level) = .ok s.level := by
  unfold checkMembers statedIn
  simp only [Checked.map_eq_ok_iff, Checked.both_eq_ok_iff]
  constructor
  · rintro ⟨⟨locale, fallback, directory, extensions, size, level⟩, hparts, rfl⟩
    exact hparts
  · intro hparts
    exact ⟨(s.defaultLocale, s.fallback, s.directory, s.extensions, s.cacheSize, s.level), hparts,
      rfl⟩

/-- A record is checked member by member. -/
theorem check_record (ms : List (String × Value)) : check (.record ms) = checkMembers ms :=
  schemaRules.record_members rfl

/-- Settings pass when they are an object whose members pass. -/
theorem check_eq_ok_iff {v : Value} {s : Settings} :
    check v = .ok s ↔ ∃ ms, v.members? = some ms ∧ checkMembers ms = .ok s := by
  unfold check
  cases hms : v.members? with
  | none =>
    rw [schemaRules.record_other hms]
    exact iff_of_false (by simp) (by simp)
  | some ms =>
    rw [schemaRules.record_members hms]
    simp

/-- What passes the check is valid. -/
theorem valid_of_check {v : Value} {s : Settings} (h : check v = .ok s) : s.Valid := by
  obtain ⟨ms, -, hms⟩ := check_eq_ok_iff.1 h
  obtain ⟨-, -, hdirectory, hextensions, hsize, -⟩ := (checkMembers_eq_ok_iff ms s).1 hms
  obtain ⟨-, hne⟩ := (checkDirectory_eq_ok_iff _ _ _).1 hdirectory
  obtain ⟨-, hsome, hall⟩ := (checkExtensions_eq_ok_iff _ _ _).1 hextensions
  obtain ⟨-, hlow, hhigh⟩ := (checkCacheSize_eq_ok_iff _ _ _).1 hsize
  exact ⟨hne, hsome, hall, hlow, hhigh⟩

/-- What is valid passes the check and comes out as it went in. -/
theorem check_toValue {s : Settings} (h : s.Valid) : check s.toValue = .ok s := by
  rw [toValue, check_record]
  apply (checkMembers_eq_ok_iff _ s).2
  refine ⟨checkLocale_tag _ _, checkFallback_tag _ _, ?_, ?_, ?_, ?_⟩
  · exact (checkDirectory_eq_ok_iff _ _ _).2 ⟨rfl, h.directory⟩
  · exact (checkExtensions_eq_ok_iff _ _ _).2 ⟨rfl, h.extensions_ne_nil, h.isExtension⟩
  · exact (checkCacheSize_eq_ok_iff _ _ _).2 ⟨rfl, h.cacheSize_pos, h.cacheSize_le⟩
  · exact (checkLevel_eq_ok_iff _ _ _).2 rfl

end Settings

end Phrasebook

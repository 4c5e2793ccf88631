import Phrasebook.Proofs.Settings.Issues

namespace Phrasebook

/-!
# Environments that are accepted

Each variable of the environment is right or wrong by itself, but for the fallback locale, which is
the default locale where it is not stated.  Settings are made of an environment if all variables are
right, and else everything wrong is reported, setting by setting.

* `Environment.Passes`: the rules for the texts of the variables.
* `RawSettings.issuesOf`: what is wrong with one setting.
* `RawSettings.issuesOf_eq_nil_iff`: nothing is wrong with a setting whose variable passes.
* `RawSettings.exists_check_iff`, `RawSettings.issues_of_check`: all settings together.
* `Settings.ofEnvironment_spec`: which environments are accepted, and what is reported of any other.
-/

open Number (Double)
open Environment (names)

/-! ### Settings -/

/-- The settings that an environment can get wrong.  There is always a directory. -/
inductive Setting
  | defaultLocale
  | fallback
  | extensions
  | cacheSize
  | level
  deriving DecidableEq

namespace Setting

/-- The settings in the order in which they are reported. -/
def all : List Setting := [defaultLocale, fallback, extensions, cacheSize, level]

/-- The name of a setting. -/
def name : Setting → String
  | defaultLocale => Settings.names.defaultLocale
  | fallback => Settings.names.fallback
  | extensions => Settings.names.extensions
  | cacheSize => Settings.names.cacheSize
  | level => Settings.names.level

/-- The list has every setting. -/
theorem mem_all (setting : Setting) : setting ∈ all := by
  cases setting <;> decide

/-- No setting has a dot in its name. -/
theorem dot_not_mem_name (setting : Setting) : '.' ∉ setting.name.toList := by
  cases setting <;> decide

/-- A setting is known by its name. -/
theorem eq_of_name_eq {a b : Setting} (h : a.name = b.name) : a = b := by
  revert h
  cases a <;> cases b <;> decide

end Setting

/-- An issue names a setting, or the place of one of its extensions. -/
def SettingIssue.Names (i : SettingIssue) (setting : Setting) : Prop :=
  i.path = setting.name ∨
    (setting = .extensions ∧ ∃ place : Nat, i.path = setting.name ++ "." ++ Number.intText place)

/-- An issue names one setting only. -/
theorem SettingIssue.Names.unique {i : SettingIssue} {a b : Setting} (ha : i.Names a)
    (hb : i.Names b) : a = b := by
  have hdot : ∀ {a b : Setting} {place : Nat},
      a.name ≠ b.name ++ "." ++ Number.intText place := by
    intro a b place heq
    refine a.dot_not_mem_name ?_
    rw [heq, String.toList_append, String.toList_append]
    exact List.mem_append_left _ (List.mem_append_right _ List.mem_cons_self)
  rcases ha with ha | ⟨rfl, place, ha⟩
  · rcases hb with hb | ⟨-, place, hb⟩
    · exact Setting.eq_of_name_eq (ha.symm.trans hb)
    · exact absurd (ha.symm.trans hb) hdot
  · rcases hb with hb | ⟨rfl, -⟩
    · exact absurd (hb.symm.trans ha) hdot
    · rfl

/-! ### The rules -/

/-- A text without its outer blanks is the tag of a locale. -/
def KnownTag (s : String) : Prop :=
  ∃ l, Locale.ofTag? (String.ofList (Text.trim s.toList)) = some l

/-- A tag that is known is not empty. -/
theorem KnownTag.ne_empty {s : String} (h : KnownTag s) : s ≠ "" := by
  rintro rfl
  obtain ⟨l, hl⟩ := h
  exact absurd (hl.symm.trans Locale.ofTag?_empty) (by simp)

namespace Environment

/-- A variable is absent or empty. -/
def Silent (env : Environment) (name : String) : Prop :=
  env.text? name = none ∨ env.text? name = some ""

/-- The rules for the texts of the variables. -/
inductive Passes (env : Environment) : Setting → Prop
  /-- no default locale is English -/
  | noLocale (h : env.text? names.defaultLocale = none) : Passes env .defaultLocale
  /-- so is a blank one -/
  | blankLocale (s : String) (h : env.text? names.defaultLocale = some s)
    (hs : Text.trim s.toList = []) : Passes env .defaultLocale
  | locale (s : String) (h : env.text? names.defaultLocale = some s) (hs : KnownTag s) :
    Passes env .defaultLocale
  /-- the default locale is also the fallback, where that is not stated -/
  | sameFallback (h : env.Silent names.fallback) (hlocale : Passes env .defaultLocale) :
    Passes env .fallback
  | noFallback (s : String) (h : env.text? names.fallback = some s)
    (hs : Text.lower (Text.trim s.toList) = Phrasebook.noFallback) : Passes env .fallback
  | fallback (s : String) (h : env.text? names.fallback = some s) (hs : KnownTag s) :
    Passes env .fallback
  | noExtensions (h : env.Silent names.extensions) : Passes env .extensions
  /-- extensions of plain characters, one at least -/
  | extensions (s : String) (h : env.text? names.extensions = some s) (hne : readExtensions s ≠ [])
    (hs : ∀ e ∈ readExtensions s, ∀ c ∈ e.toList, Text.IsPlain c) : Passes env .extensions
  | noCacheSize (h : env.Silent names.cacheSize) : Passes env .cacheSize
  /-- an integer from one to a million -/
  | cacheSize (s : String) (n : Int) (h : env.text? names.cacheSize = some s)
    (hs : (Double.ofText (Text.trim s.toList)).toInt? = some n) (hlow : 1 ≤ n)
    (hhigh : n ≤ 1000000) : Passes env .cacheSize
  | noLevel (h : env.Silent names.level) : Passes env .level
  /-- a severity, in any letter case -/
  | level (s : String) (severity : Severity) (h : env.text? names.level = some s)
    (hs : String.ofList (Text.lower (Text.trim s.toList)) = severity.name) : Passes env .level

variable {env : Environment} {name s : String}

/-- A variable states its text, unless that is empty. -/
theorem stated?_eq_some_iff : env.stated? name = some s ↔ env.text? name = some s ∧ s ≠ "" := by
  rw [stated?, Option.filter_eq_some_iff]
  refine and_congr_right fun _ => ?_
  rw [Bool.not_eq_true', ← Bool.not_eq_true, String.isEmpty_iff]

/-- A variable states nothing just where it is silent. -/
theorem stated?_eq_none_iff : env.stated? name = none ↔ env.Silent name := by
  rw [stated?, Silent]
  cases env.text? name with
  | none => simp
  | some s => simp [Option.filter_some]

/-- The text of a silent variable is empty. -/
theorem Silent.eq_empty (h : env.Silent name) (hs : env.text? name = some s) : s = "" := by
  rcases h with h | h
  · exact absurd (hs.symm.trans h) (by simp)
  · exact Option.some.inj (hs.symm.trans h)

/-- A variable is silent or states a text. -/
theorem silent_or (env : Environment) (name : String) :
    env.Silent name ∨ ∃ s, env.text? name = some s ∧ s ≠ "" := by
  cases h : env.stated? name with
  | none => exact Or.inl (stated?_eq_none_iff.1 h)
  | some s => exact Or.inr ⟨s, stated?_eq_some_iff.1 h⟩

/-- A text that is not blank is stated without its outer blanks. -/
theorem trimmed?_of_text (h : env.text? name = some s) (hs : Text.trim s.toList ≠ []) :
    env.trimmed? name = some (String.ofList (Text.trim s.toList)) := by
  have hne : String.ofList (Text.trim s.toList) ≠ "" :=
    fun hempty => hs (String.ofList_eq_empty_iff.1 hempty)
  rw [trimmed?, h, Option.map_some, Option.filter_some, isEmpty_eq_false hne]
  rfl

/-- A blank text states nothing. -/
theorem trimmed?_of_blank (h : env.text? name = some s) (hs : Text.trim s.toList = []) :
    env.trimmed? name = none := by
  rw [trimmed?, h, Option.map_some, hs]
  rfl

/-- A variable without a text states nothing. -/
theorem trimmed?_of_none (h : env.text? name = none) : env.trimmed? name = none := by
  rw [trimmed?, h]
  rfl

end Environment

/-! ### What is wrong with stated settings -/

namespace RawSettings

open Settings (checkTag checkFallback checkExtensions checkCacheSize checkLevel)

/-- What is wrong with one of the settings that are stated. -/
def issuesOf (raw : RawSettings) : Setting → List SettingIssue
  | .defaultLocale => (checkTag Settings.names.defaultLocale raw.defaultLocale).issues
  | .fallback =>
    (checkFallback Settings.names.fallback ((raw.fallback.map Value.text).getD .null)).issues
  | .extensions =>
    (checkExtensions Settings.names.extensions (.list (raw.extensions.map .text))).issues
  | .cacheSize => (checkCacheSize Settings.names.cacheSize (.number raw.cacheSize)).issues
  | .level => (checkLevel Settings.names.level (.text raw.level)).issues

/-- Each issue names the setting it is an issue of. -/
theorem names_of_mem_issuesOf {raw : RawSettings} {setting : Setting} {i : SettingIssue}
    (h : i ∈ raw.issuesOf setting) : i.Names setting := by
  cases setting with
  | defaultLocale => exact Or.inl (Settings.path_of_mem_checkTag h)
  | fallback =>
    unfold issuesOf at h
    cases hfallback : raw.fallback with
    | none =>
      rw [hfallback] at h
      exact absurd h List.not_mem_nil
    | some tag =>
      rw [hfallback, Option.map_some, Option.getD_some, Settings.checkFallback_text,
        Checked.issues_map] at h
      exact Or.inl (Settings.path_of_mem_checkTag h)
  | extensions =>
    exact (Settings.path_of_mem_checkExtensions h).imp_right fun hplace => ⟨rfl, hplace⟩
  | cacheSize => exact Or.inl (Settings.path_of_mem_checkCacheSize h)
  | level => exact Or.inl (Settings.path_of_mem_checkLevel h)

/-- The settings that the issues name are those that something is wrong with. -/
theorem exists_names_iff {raw : RawSettings} {setting : Setting} :
    (∃ i ∈ Setting.all.flatMap raw.issuesOf, i.Names setting) ↔ raw.issuesOf setting ≠ [] := by
  constructor
  · rintro ⟨i, hi, hsetting⟩
    obtain ⟨other, -, hother⟩ := List.mem_flatMap.1 hi
    obtain rfl := (names_of_mem_issuesOf hother).unique hsetting
    exact List.ne_nil_of_mem hother
  · intro hne
    obtain ⟨i, hi⟩ := List.exists_mem_of_ne_nil _ hne
    exact ⟨i, List.mem_flatMap.2 ⟨setting, setting.mem_all, hi⟩, names_of_mem_issuesOf hi⟩

variable (env : Environment)

/-- Nothing is wrong with the default locale just where its variable passes. -/
theorem issuesOf_defaultLocale :
    (ofEnvironment env).issuesOf .defaultLocale = [] ↔ env.Passes .defaultLocale := by
  show (checkTag _ ((env.trimmed? names.defaultLocale).getD usualLocale)).issues = [] ↔ _
  rw [Settings.checkTag_issues_eq_nil_iff]
  have husual : ∃ l, Locale.ofTag? usualLocale = some l :=
    Option.isSome_iff_exists.1 (by decide +kernel)
  cases htext : env.text? names.defaultLocale with
  | none =>
    rw [Environment.trimmed?_of_none htext]
    exact iff_of_true husual (.noLocale htext)
  | some s =>
    by_cases hblank : Text.trim s.toList = []
    · rw [Environment.trimmed?_of_blank htext hblank]
      exact iff_of_true husual (.blankLocale s htext hblank)
    · rw [Environment.trimmed?_of_text htext hblank, Option.getD_some]
      refine ⟨.locale s htext, fun hpasses => ?_⟩
      cases hpasses with
      | noLocale h => exact absurd (htext.symm.trans h) (by simp)
      | blankLocale s' h hs =>
        obtain rfl := Option.some.inj (htext.symm.trans h)
        exact absurd hs hblank
      | locale s' h hs =>
        obtain rfl := Option.some.inj (htext.symm.trans h)
        exact hs

/-- Nothing is wrong with a fallback that is not stated. -/
theorem issuesOf_of_fallback_eq_none {raw : RawSettings} (h : raw.fallback = none) :
    raw.issuesOf .fallback = [] := by
  unfold issuesOf
  rw [h]
  rfl

/-- A fallback that is stated is checked as a tag. -/
theorem issuesOf_of_fallback_eq_some {raw : RawSettings} {tag : String}
    (h : raw.fallback = some tag) :
    raw.issuesOf .fallback = (checkTag Settings.names.fallback tag).issues := by
  unfold issuesOf
  rw [h, Option.map_some, Option.getD_some, Settings.checkFallback_text, Checked.issues_map]

/-- Where no fallback locale is stated, the default locale is the fallback too. -/
theorem fallback_of_silent {env : Environment} (h : env.Silent names.fallback) :
    (ofEnvironment env).fallback = some (ofEnvironment env).defaultLocale := by
  unfold ofEnvironment
  rw [Environment.stated?_eq_none_iff.2 h]

/-- Nothing is wrong with the fallback just where its variable passes. -/
theorem issuesOf_fallback :
    (ofEnvironment env).issuesOf .fallback = [] ↔ env.Passes .fallback := by
  rcases env.silent_or names.fallback with hsilent | ⟨s, htext, hne⟩
  · -- nothing is stated: the fallback is the default locale, and passes where that one does
    have hdefault := issuesOf_defaultLocale env
    unfold issuesOf at hdefault
    rw [Settings.checkTag_issues_eq_nil_iff] at hdefault
    rw [issuesOf_of_fallback_eq_some (fallback_of_silent hsilent),
      Settings.checkTag_issues_eq_nil_iff, hdefault]
    refine ⟨.sameFallback hsilent, fun hpasses => ?_⟩
    cases hpasses with
    | sameFallback _ hlocale => exact hlocale
    | noFallback s h hs =>
      rw [hsilent.eq_empty h] at hs
      exact absurd hs (by decide)
    | fallback s h hs => exact absurd (hsilent.eq_empty h) hs.ne_empty
  · -- something is stated: the word for none, or a tag of its own
    have hread : (ofEnvironment env).fallback = readFallback s := by
      unfold ofEnvironment
      rw [Environment.stated?_eq_some_iff.2 ⟨htext, hne⟩]
    by_cases hnone : Text.lower (Text.trim s.toList) = noFallback
    · rw [readFallback, if_pos hnone] at hread
      exact iff_of_true (issuesOf_of_fallback_eq_none hread) (.noFallback s htext hnone)
    · rw [readFallback, if_neg hnone] at hread
      rw [issuesOf_of_fallback_eq_some hread, Settings.checkTag_issues_eq_nil_iff]
      refine ⟨.fallback s htext, fun hpasses => ?_⟩
      cases hpasses with
      | sameFallback hsilent _ => exact absurd (hsilent.eq_empty htext) hne
      | noFallback s' h hs =>
        obtain rfl := Option.some.inj (htext.symm.trans h)
        exact absurd hs hnone
      | fallback s' h hs =>
        obtain rfl := Option.some.inj (htext.symm.trans h)
        exact hs

/-- Empty extensions do not count. -/
theorem ne_empty_of_mem_readExtensions {s e : String} (h : e ∈ readExtensions s) : e ≠ "" := by
  unfold readExtensions at h
  obtain ⟨cs, hcs, rfl⟩ := List.mem_map.1 h
  have hne := (List.mem_filter.1 hcs).2
  intro hempty
  rw [String.ofList_eq_empty_iff.1 hempty] at hne
  exact absurd hne (by decide)

/-- Nothing is wrong with the extensions just where their variable passes. -/
theorem issuesOf_extensions :
    (ofEnvironment env).issuesOf .extensions = [] ↔ env.Passes .extensions := by
  unfold issuesOf
  rw [Settings.checkExtensions_issues_eq_nil_iff]
  rcases env.silent_or names.extensions with hsilent | ⟨s, htext, hne⟩
  · have hread : (ofEnvironment env).extensions = ["json"] := by
      unfold ofEnvironment
      rw [Environment.stated?_eq_none_iff.2 hsilent]
    rw [hread]
    exact iff_of_true (by decide) (.noExtensions hsilent)
  · have hread : (ofEnvironment env).extensions = readExtensions s := by
      unfold ofEnvironment
      rw [Environment.stated?_eq_some_iff.2 ⟨htext, hne⟩]
    rw [hread]
    constructor
    · rintro ⟨hsome, hall⟩
      exact .extensions s htext hsome fun e he => ((Settings.isExtension_iff e).1 (hall e he)).2
    · intro hpasses
      cases hpasses with
      | noExtensions hsilent => exact absurd (hsilent.eq_empty htext) hne
      | extensions s' h hsome hs =>
        obtain rfl := Option.some.inj (htext.symm.trans h)
        refine ⟨hsome, fun e he => (Settings.isExtension_iff e).2 ⟨?_, hs e he⟩⟩
        exact ne_empty_of_mem_readExtensions he

/-- Nothing is wrong with the size of the cache just where its variable passes. -/
theorem issuesOf_cacheSize :
    (ofEnvironment env).issuesOf .cacheSize = [] ↔ env.Passes .cacheSize := by
  unfold issuesOf
  rw [Settings.checkCacheSize_issues_eq_nil_iff]
  rcases env.silent_or names.cacheSize with hsilent | ⟨s, htext, hne⟩
  · have hread : (ofEnvironment env).cacheSize = .ofInt Cache.defaultCapacity := by
      unfold ofEnvironment
      rw [Environment.stated?_eq_none_iff.2 hsilent]
    rw [hread]
    exact iff_of_true ⟨500, Double.toInt?_ofInt (by decide), by decide, by decide⟩
      (.noCacheSize hsilent)
  · have hread : (ofEnvironment env).cacheSize = Double.ofText (Text.trim s.toList) := by
      unfold ofEnvironment
      rw [Environment.stated?_eq_some_iff.2 ⟨htext, hne⟩]
      unfold Double.ofText
      rw [Text.trim_of_trimmed (Text.trimmed_trim s.toList)]
    rw [hread]
    constructor
    · rintro ⟨n, hn, hlow, hhigh⟩
      exact .cacheSize s n htext hn hlow hhigh
    · intro hpasses
      cases hpasses with
      | noCacheSize hsilent => exact absurd (hsilent.eq_empty htext) hne
      | cacheSize s' n h hs hlow hhigh =>
        obtain rfl := Option.some.inj (htext.symm.trans h)
        exact ⟨n, hs, hlow, hhigh⟩

/-- Nothing is wrong with the level just where its variable passes. -/
theorem issuesOf_level :
    (ofEnvironment env).issuesOf .level = [] ↔ env.Passes .level := by
  unfold issuesOf
  rw [Settings.checkLevel_issues_eq_nil_iff]
  rcases env.silent_or names.level with hsilent | ⟨s, htext, hne⟩
  · have hread : (ofEnvironment env).level = Severity.info.name := by
      unfold ofEnvironment
      rw [Environment.stated?_eq_none_iff.2 hsilent]
      exact (readLevel_name .info).2
    exact iff_of_true ⟨.info, hread⟩ (.noLevel hsilent)
  · have hread : (ofEnvironment env).level
        = String.ofList (Text.lower (Text.trim s.toList)) := by
      unfold ofEnvironment
      rw [Environment.stated?_eq_some_iff.2 ⟨htext, hne⟩]
      rfl
    rw [hread]
    constructor
    · rintro ⟨severity, hs⟩
      exact .level s severity htext hs
    · intro hpasses
      cases hpasses with
      | noLevel hsilent => exact absurd (hsilent.eq_empty htext) hne
      | level s' severity h hs =>
        obtain rfl := Option.some.inj (htext.symm.trans h)
        exact ⟨severity, hs⟩

/-- Nothing is wrong with a setting that an environment states if and only if its variable
    passes. -/
theorem issuesOf_eq_nil_iff (setting : Setting) :
    (ofEnvironment env).issuesOf setting = [] ↔ env.Passes setting := by
  cases setting with
  | defaultLocale => exact issuesOf_defaultLocale env
  | fallback => exact issuesOf_fallback env
  | extensions => exact issuesOf_extensions env
  | cacheSize => exact issuesOf_cacheSize env
  | level => exact issuesOf_level env

/-! ### All settings -/

/-- Settings that are stated pass if nothing is wrong with any of them. -/
theorem exists_check_iff {raw : RawSettings} (hdir : raw.directory ≠ "") :
    (∃ s, Settings.check raw.toValue = .ok s) ↔ ∀ setting, raw.issuesOf setting = [] := by
  rw [toValue, Settings.check_record]
  constructor
  · rintro ⟨s, hs⟩ setting
    obtain ⟨hlocale, hfallback, -, hextensions, hsize, hlevel⟩ :=
      (Settings.checkMembers_eq_ok_iff _ s).1 hs
    cases setting with
    | defaultLocale => exact congrArg Checked.issues hlocale
    | fallback => exact congrArg Checked.issues hfallback
    | extensions => exact congrArg Checked.issues hextensions
    | cacheSize => exact congrArg Checked.issues hsize
    | level => exact congrArg Checked.issues hlevel
  · intro h
    obtain ⟨locale, hlocale⟩ :=
      (Checked.issues_eq_nil_iff (Settings.telling_checkTag _ _)).1 (h .defaultLocale)
    obtain ⟨fallback, hfallback⟩ :=
      (Checked.issues_eq_nil_iff (Settings.telling_checkFallback _ _)).1 (h .fallback)
    obtain ⟨extensions, hextensions⟩ :=
      (Checked.issues_eq_nil_iff (Settings.telling_checkExtensions _ _)).1 (h .extensions)
    obtain ⟨size, hsize⟩ :=
      (Checked.issues_eq_nil_iff (Settings.telling_checkCacheSize _ _)).1 (h .cacheSize)
    obtain ⟨level, hlevel⟩ :=
      (Checked.issues_eq_nil_iff (Settings.telling_checkLevel _ _)).1 (h .level)
    exact ⟨⟨locale, fallback, raw.directory, extensions, size, level⟩,
      (Settings.checkMembers_eq_ok_iff _ _).2 ⟨hlocale, hfallback,
        (Settings.checkDirectory_eq_ok_iff _ _ _).2 ⟨rfl, hdir⟩, hextensions, hsize, hlevel⟩⟩

/-- Settings that do not pass are reported one after another. -/
theorem issues_of_check {raw : RawSettings} (hdir : raw.directory ≠ "") {is : List SettingIssue}
    (h : Settings.check raw.toValue = .error is) : is = Setting.all.flatMap raw.issuesOf := by
  have hdirectory : Settings.checkDirectory Settings.names.directory (.text raw.directory)
      = .ok raw.directory := (Settings.checkDirectory_eq_ok_iff _ _ _).2 ⟨rfl, hdir⟩
  rw [toValue, Settings.check_record] at h
  have hall : is = _ := (congrArg Checked.issues h).symm.trans (Settings.issues_checkMembers _)
  change is = raw.issuesOf .defaultLocale ++ raw.issuesOf .fallback
    ++ (Settings.checkDirectory Settings.names.directory (.text raw.directory)).issues
    ++ raw.issuesOf .extensions ++ raw.issuesOf .cacheSize ++ raw.issuesOf .level at hall
  rw [hall, hdirectory]
  simp [Setting.all, Checked.issues]

/-- There is always a directory. -/
theorem directory_ne_empty (env : Environment) : (ofEnvironment env).directory ≠ "" := by
  show (env.trimmed? names.directory).getD usualDirectory ≠ ""
  cases hdir : env.trimmed? names.directory with
  | none => decide
  | some dir =>
    have hne := (Option.filter_eq_some_iff.1 hdir).2
    rintro rfl
    exact absurd hne (by decide)

end RawSettings

namespace Settings

/-- What an environment states is wrong with its settings, all together. -/
theorem ofEnvironment_eq_error {env : Environment} {f : Fault} (h : ofEnvironment env = .error f) :
    f = .misconfigured ((Setting.all.flatMap (RawSettings.ofEnvironment env).issuesOf).map
      SettingIssue.inWords) := by
  unfold ofEnvironment at h
  cases hcheck : check (RawSettings.ofEnvironment env).toValue with
  | ok s =>
    rw [hcheck] at h
    exact absurd h (by simp)
  | error is =>
    rw [hcheck] at h
    rw [← RawSettings.issues_of_check (RawSettings.directory_ne_empty env) hcheck]
    exact (Except.error.inj h).symm

/-- An environment is accepted if and only if every variable passes.  Of any other, and with no
    other fault, what is wrong is reported in the order of the settings, and the issues name those
    settings that do not pass.  Where no fallback locale is stated, what is wrong with the default
    locale is wrong with the fallback too. -/
theorem ofEnvironment_spec (env : Environment) :
    ((∃ s, ofEnvironment env = .ok s) ↔ ∀ setting, env.Passes setting) ∧
    (∀ f, ofEnvironment env = .error f → f.name = "ConfigurationError" ∧
      ∃ blamed : Setting → List SettingIssue,
        f = .misconfigured ((Setting.all.flatMap blamed).map SettingIssue.inWords) ∧
        (∀ setting, ∀ i ∈ blamed setting, i.Names setting) ∧
        (∀ setting, (∃ i ∈ Setting.all.flatMap blamed, i.Names setting) ↔ ¬ env.Passes setting) ∧
        (env.Silent Environment.names.fallback → blamed .fallback
          = (blamed .defaultLocale).map fun i => { i with path := Setting.fallback.name })) ∧
    ∀ path tag, testThenRead path tag = .ok (checkTag path tag) := by
  refine ⟨?_, fun f hf => ?_, testThenRead_eq⟩
  · have hcheck := RawSettings.exists_check_iff (RawSettings.directory_ne_empty env)
    simp only [RawSettings.issuesOf_eq_nil_iff] at hcheck
    rw [← hcheck]
    exact exists_congr fun s => ofEnvironment_eq_ok_iff env s
  · obtain rfl := ofEnvironment_eq_error hf
    refine ⟨rfl, (RawSettings.ofEnvironment env).issuesOf, rfl,
      fun setting i hi => RawSettings.names_of_mem_issuesOf hi, fun setting => ?_, ?_⟩
    · rw [RawSettings.exists_names_iff]
      exact not_congr (RawSettings.issuesOf_eq_nil_iff env setting)
    · intro hsilent
      rw [RawSettings.issuesOf_of_fallback_eq_some (RawSettings.fallback_of_silent hsilent)]
      exact issues_checkTag _ _ _

/-- A cache size of a thousand in another notation, and no fallback: accepted.  An extension with a
    blank in it: reported at its place, and nothing else. -/
theorem ofEnvironment_spec_extensions :
    let right : Environment := Dict.ofList
      [("I18N_FALLBACK_LOCALE", some " None "), ("I18N_TEMPLATE_CACHE_SIZE", some "1e3")]
    let wrong : Environment := Dict.ofList [("I18N_FILE_EXTENSIONS", some "a b,.JSON")]
    (∃ s, ofEnvironment right = .ok s) ∧ (∃ setting, ¬ wrong.Passes setting) ∧
    ofEnvironment wrong
      = .error (.misconfigured ["fileExtensions.0: extension must be alphanumeric"]) := by
  intro right wrong
  obtain ⟨haccepted, -, -⟩ := ofEnvironment_spec right
  obtain ⟨hrefused, -⟩ := ofEnvironment_spec wrong
  have hcheck : check (RawSettings.ofEnvironment wrong).toValue
      = .error [⟨"fileExtensions.0", "extension must be alphanumeric"⟩] := by
    decide +kernel
  have hwrong : ofEnvironment wrong
      = .error (.misconfigured ["fileExtensions.0: extension must be alphanumeric"]) := by
    rw [ofEnvironment, hcheck]
    rfl
  refine ⟨haccepted.2 fun setting => ?_, ?_, hwrong⟩
  · cases setting with
    | defaultLocale => exact .noLocale (by decide +kernel)
    | fallback => exact .noFallback " None " (by decide +kernel) (by decide +kernel)
    | extensions => exact .noExtensions (Or.inl (by decide +kernel))
    | cacheSize =>
      exact .cacheSize "1e3" 1000 (by decide +kernel) (by decide +kernel) (by decide) (by decide)
    | level => exact .noLevel (Or.inl (by decide +kernel))
  · by_contra hall
    obtain ⟨s, hs⟩ := hrefused.2 fun setting => by_contra fun hnot => hall ⟨setting, hnot⟩
    exact absurd (hwrong.symm.trans hs) (by simp)

end Settings

end Phrasebook

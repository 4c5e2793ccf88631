import Phrasebook.Proofs.Settings.Checks

namespace Phrasebook

/-!
# Settings through the environment

Every setting is brought into a form of its own when it is read: outer blanks go, a tag is spelled
canonically, extensions lose their dot and their capitals, a numeral becomes a number.  The forms
are chosen so that reading leaves them alone, so settings that were read may be written back as
variables and are read as what they were.

* `readFallback_fallbackText`, `readExtensions_intercalate`, `ofText_cacheSize`: the forms of single
  settings are read as they are.
* `RawSettings.ofEnvironment_toEnvironment`: valid settings that are written as variables are what
  those variables state.
* `Settings.ofEnvironment_toEnvironment`: valid settings survive the environment.
* `Settings.ofEnvironment_roundTrip`: settings read from any environment do.
-/

open Environment (names)

theorem isEmpty_eq_false {s : String} (h : s ≠ "") : s.isEmpty = false := by
  rw [Bool.eq_false_iff]
  intro hempty
  exact h (String.isEmpty_iff.1 hempty)

namespace Environment

/-! ### Texts that are taken as they are -/

variable {env : Environment} {name s : String}

/-- A text that is not empty is stated. -/
theorem stated?_eq_some (h : env.text? name = some s) (hne : s ≠ "") :
    env.stated? name = some s := by
  rw [stated?, h, Option.filter_some, isEmpty_eq_false hne]
  rfl

/-- A text without outer blanks is stated as it is. -/
theorem trimmed?_eq_some (h : env.text? name = some s) (hs : Text.Trimmed s.toList)
    (hne : s ≠ "") : env.trimmed? name = some s := by
  rw [trimmed?, h, Option.map_some, Text.trim_of_trimmed hs, String.ofList_toList,
    Option.filter_some, isEmpty_eq_false hne]
  rfl

/-- What is left of a text without outer blanks has none. -/
theorem trimmed_of_trimmed? (h : env.trimmed? name = some s) : Text.Trimmed s.toList := by
  unfold trimmed? at h
  obtain ⟨hs, -⟩ := Option.filter_eq_some_iff.1 h
  obtain ⟨t, -, rfl⟩ := Option.map_eq_some_iff.1 hs
  rw [String.toList_ofList]
  exact Text.trimmed_trim t.toList

end Environment

/-- The variables that settings are written as have the texts they are written with. -/
theorem Environment.text?_ofList (tag fallback dir extensions size level : Option String) :
    let env : Environment := Dict.ofList
      [(names.defaultLocale, tag), (names.fallback, fallback), (names.directory, dir),
        (names.extensions, extensions), (names.cacheSize, size), (names.level, level)]
    env.text? names.defaultLocale = tag ∧ env.text? names.fallback = fallback ∧
      env.text? names.directory = dir ∧ env.text? names.extensions = extensions ∧
      env.text? names.cacheSize = size ∧ env.text? names.level = level :=
  ⟨rfl, rfl, rfl, rfl, rfl, rfl⟩

/-! ### The forms of single settings -/

theorem tag_ne_empty (l : Locale) : l.tag ≠ "" := by
  intro h
  exact tag_ne_nil l (by rw [h]; rfl)

/-- No tag states that there is no fallback locale. -/
theorem lower_tag_ne (l : Locale) : Text.lower l.tag.toList ≠ noFallback := by
  have htable : ∀ e ∈ localeTable, Text.lower e.tag.toList ≠ noFallback := by decide +kernel
  exact htable _ (List.get_mem localeTable l.position)

/-- How a fallback locale is stated. -/
def fallbackText (o : Option Locale) : String :=
  (o.map Locale.tag).getD (String.ofList noFallback)

/-- A fallback is always written as some text. -/
theorem fallbackText_ne_empty (o : Option Locale) : fallbackText o ≠ "" := by
  cases o with
  | none => decide
  | some l => exact tag_ne_empty l

/-- A fallback locale is read as the one that was stated. -/
theorem readFallback_fallbackText (o : Option Locale) :
    readFallback (fallbackText o) = o.map Locale.tag := by
  cases o with
  | none => rfl
  | some l =>
    show readFallback l.tag = some l.tag
    unfold readFallback
    rw [Text.trim_of_trimmed l.trimmed_tag, if_neg (lower_tag_ne l), String.ofList_toList]

/-- A small letter or a digit: no blank, no dot, no comma, and no capital. -/
theorem plain_of_isExtension {e : String} (h : Settings.isExtension e = true) :
    e ≠ "" ∧ ∀ c ∈ e.toList,
      Text.isBlank c = false ∧ c ≠ '.' ∧ c ≠ ',' ∧ Text.IsSmall c := by
  obtain ⟨hne, hplain⟩ := (Settings.isExtension_iff e).1 h
  refine ⟨hne, fun c hc => ?_⟩
  exact Text.ascii_forall (p := fun c => Text.IsPlain c →
    Text.isBlank c = false ∧ c ≠ '.' ∧ c ≠ ',' ∧ Text.IsSmall c) (by decide +kernel)
    (hplain c hc).toNat.2 (hplain c hc)

/-- An extension is read as it is written. -/
theorem readExtension_eq {e : String} (h : Settings.isExtension e = true) :
    Text.lower (dropDot (Text.trim e.toList)) = e.toList := by
  obtain ⟨-, hplain⟩ := plain_of_isExtension h
  have htrim : Text.trim e.toList = e.toList :=
    Text.trim_of_trimmed (Text.trimmed_of_forall fun c hc => (hplain c hc).1)
  have hdot : dropDot e.toList = e.toList := by
    unfold dropDot
    split
    · rename_i s hs
      exact absurd rfl (hplain '.' (by rw [hs]; exact List.mem_cons_self)).2.1
    · rfl
  rw [htrim, hdot]
  exact Text.lower_of_small fun c hc => (hplain c hc).2.2.2

/-- Extensions with commas between them are read as those extensions. -/
theorem readExtensions_intercalate {es : List String} (hne : es ≠ [])
    (h : ∀ e ∈ es, Settings.isExtension e = true) :
    readExtensions (String.intercalate "," es) = es := by
  have hcomma : ∀ cs ∈ es.map String.toList, ',' ∉ cs := by
    intro cs hcs hmem
    obtain ⟨e, he, rfl⟩ := List.mem_map.1 hcs
    exact ((plain_of_isExtension (h e he)).2 ',' hmem).2.2.1 rfl
  have hsplit : ([','].intercalate (es.map String.toList)).splitOnP (· == ',')
      = es.map String.toList := by
    rw [← List.splitOn_eq_splitOnP]
    exact List.splitOn_intercalate ',' hcomma (by simpa using hne)
  have hread : (es.map String.toList).map (fun e => Text.lower (dropDot (Text.trim e)))
      = es.map String.toList := by
    rw [List.map_map]
    exact List.map_congr_left fun e he => readExtension_eq (h e he)
  have hfilter : (es.map String.toList).filter (fun e => !e.isEmpty) = es.map String.toList := by
    apply List.filter_eq_self.2
    intro cs hcs
    obtain ⟨e, he, rfl⟩ := List.mem_map.1 hcs
    simpa using (plain_of_isExtension (h e he)).1
  have hjoin : (String.intercalate "," es).toList = [','].intercalate (es.map String.toList) :=
    String.toList_intercalate
  rw [readExtensions, hjoin, hsplit, hread, hfilter, List.map_map]
  have hback : String.ofList ∘ String.toList = id := funext fun e => String.ofList_toList
  rw [hback, List.map_id]

/-- Extensions are written as some text. -/
theorem intercalate_ne_empty {es : List String} (hne : es ≠ [])
    (h : ∀ e ∈ es, Settings.isExtension e = true) : String.intercalate "," es ≠ "" := by
  intro hempty
  have hread := readExtensions_intercalate hne h
  rw [hempty] at hread
  exact hne hread.symm

/-- The size of a cache is read as the number that was written. -/
theorem ofText_cacheSize {n : Nat} (h : n ≤ Settings.maxCacheSize) :
    Number.Double.ofText (Number.intText n).toList = .ofInt n := by
  have hsign : Number.signOf n = [] := if_neg (by omega)
  rw [Number.toList_intText, hsign, Int.natAbs_natCast, List.nil_append]
  have hsafe : (n : Int).natAbs ≤ Number.Double.maxSafe :=
    Settings.natAbs_le_maxSafe (by omega) (by omega)
  exact Number.Double.ofText_digitChars hsafe

theorem intText_ne_empty (n : Int) : Number.intText n ≠ "" := by
  intro h
  exact Number.intText_ne_nil n (by rw [h]; rfl)

/-- The name of a severity is read as it is written. -/
theorem readLevel_name (s : Severity) :
    s.name ≠ "" ∧ String.ofList (Text.lower (Text.trim s.name.toList)) = s.name := by
  cases s <;> exact ⟨by decide, by rfl⟩

/-! ### All settings -/

/-- Settings as they are stated. -/
def Settings.stated (s : Settings) : RawSettings where
  defaultLocale := s.defaultLocale.tag
  fallback := s.fallback.map Locale.tag
  directory := s.directory
  extensions := s.extensions
  cacheSize := .ofInt s.cacheSize
  level := s.level.name

/-- Stated settings are the value of the settings. -/
theorem Settings.toValue_stated (s : Settings) : s.stated.toValue = s.toValue := by
  have hfallback : (s.stated.fallback.map Value.text).getD .null
      = (s.fallback.map fun l => Value.text l.tag).getD .null := by
    show ((s.fallback.map Locale.tag).map Value.text).getD .null = _
    rw [Option.map_map]
    rfl
  rw [RawSettings.toValue, hfallback, stated, toValue]

/-- Written as variables, valid settings state what they are. -/
theorem RawSettings.ofEnvironment_toEnvironment {s : Settings} (h : s.Valid)
    (hdir : Text.Trimmed s.directory.toList) : ofEnvironment s.toEnvironment = s.stated := by
  obtain ⟨htag, hfallback, hdirectory, hextensions, hsize, hlevel⟩ :=
    Environment.text?_ofList (some s.defaultLocale.tag) (some (fallbackText s.fallback))
      (some s.directory) (some (String.intercalate "," s.extensions))
      (some (Number.intText s.cacheSize)) (some s.level.name)
  have htag : s.toEnvironment.trimmed? names.defaultLocale = some s.defaultLocale.tag :=
    Environment.trimmed?_eq_some htag s.defaultLocale.trimmed_tag (tag_ne_empty _)
  have hfallback : s.toEnvironment.stated? names.fallback = some (fallbackText s.fallback) :=
    Environment.stated?_eq_some hfallback (fallbackText_ne_empty _)
  have hdirectory : s.toEnvironment.trimmed? names.directory = some s.directory :=
    Environment.trimmed?_eq_some hdirectory hdir h.directory
  have hextensions : s.toEnvironment.stated? names.extensions
      = some (String.intercalate "," s.extensions) :=
    Environment.stated?_eq_some hextensions (intercalate_ne_empty h.extensions_ne_nil h.isExtension)
  have hsize : s.toEnvironment.stated? names.cacheSize = some (Number.intText s.cacheSize) :=
    Environment.stated?_eq_some hsize (intText_ne_empty _)
  have hlevel : s.toEnvironment.stated? names.level = some s.level.name :=
    Environment.stated?_eq_some hlevel (readLevel_name s.level).1
  unfold ofEnvironment
  rw [htag, hfallback, hdirectory, hextensions, hsize, hlevel]
  dsimp only [Option.getD_some]
  rw [readFallback_fallbackText, readExtensions_intercalate h.extensions_ne_nil h.isExtension,
    ofText_cacheSize h.cacheSize_le, (readLevel_name s.level).2]
  rfl

/-- The directory that an environment states has no outer blanks. -/
theorem RawSettings.trimmed_directory (env : Environment) :
    Text.Trimmed (ofEnvironment env).directory.toList := by
  show Text.Trimmed ((env.trimmed? names.directory).getD usualDirectory).toList
  cases hdir : env.trimmed? names.directory with
  | none =>
    have hplain : (usualDirectory.toList.all fun c => !Text.isBlank c) = true := by decide
    apply Text.trimmed_of_forall
    intro c hc
    simpa using List.all_eq_true.1 hplain c hc
  | some dir => exact Environment.trimmed_of_trimmed? hdir

namespace Settings

/-- Settings from the environment are what the environment states, checked. -/
theorem ofEnvironment_eq_ok_iff (env : Environment) (s : Settings) :
    ofEnvironment env = .ok s ↔ check (RawSettings.ofEnvironment env).toValue = .ok s := by
  unfold ofEnvironment
  cases check (RawSettings.ofEnvironment env).toValue with
  | ok s' => simp
  | error is => simp

/-- Settings from the environment are valid. -/
theorem valid_of_ofEnvironment {env : Environment} {s : Settings} (h : ofEnvironment env = .ok s) :
    s.Valid :=
  valid_of_check ((ofEnvironment_eq_ok_iff env s).1 h)

/-- A directory from the environment has no outer blanks. -/
theorem trimmed_directory {env : Environment} {s : Settings} (h : ofEnvironment env = .ok s) :
    Text.Trimmed s.directory.toList := by
  have hcheck := (ofEnvironment_eq_ok_iff env s).1 h
  rw [RawSettings.toValue, check_record] at hcheck
  obtain ⟨-, -, hdirectory, -⟩ := (checkMembers_eq_ok_iff _ s).1 hcheck
  obtain ⟨htext, -⟩ := (checkDirectory_eq_ok_iff _ _ _).1 hdirectory
  rw [← Value.text.inj htext]
  exact RawSettings.trimmed_directory env

/-- Valid settings in a directory without outer blanks survive the environment. -/
theorem ofEnvironment_toEnvironment {s : Settings} (h : s.Valid)
    (hdir : Text.Trimmed s.directory.toList) : ofEnvironment s.toEnvironment = .ok s := by
  apply (ofEnvironment_eq_ok_iff _ s).2
  rw [RawSettings.ofEnvironment_toEnvironment h hdir, toValue_stated]
  exact check_toValue h

/-- Settings that an environment states are read as what they are when they are written back into
    one; their tags are the canonical tags of their locales; and they pass the check as they
    are. -/
theorem ofEnvironment_roundTrip {env : Environment} {s : Settings}
    (h : ofEnvironment env = .ok s) :
    ofEnvironment s.toEnvironment = .ok s ∧
    (∀ l, l = s.defaultLocale ∨ s.fallback = some l →
      Locale.canonicalTag? l.tag.toList = some l.tag ∧ Locale.ofTag? l.tag = some l) ∧
    check s.toValue = .ok s := by
  have hvalid := valid_of_ofEnvironment h
  refine ⟨ofEnvironment_toEnvironment hvalid (trimmed_directory h), ?_, check_toValue hvalid⟩
  intro l _
  exact ⟨l.canonicalTag?_tag, l.ofTag?_tag⟩

/-- Variables with outer blanks, capitals, dots and a numeral to another base than ten. -/
def unkempt : Environment :=
  let names := Environment.names
  Dict.ofList
    [(names.defaultLocale, some " EN_gb "), (names.fallback, some "\tNONE\n"),
      (names.directory, some "  my texts "), (names.extensions, some " .JSON , json5,,"),
      (names.cacheSize, some " 0x1F "), (names.level, some " Warn ")]

/-- What those variables state. -/
def kempt : Settings where
  defaultLocale := (Locale.ofTag? "en-GB").getD default
  fallback := none
  directory := "my texts"
  extensions := ["json", "json5"]
  cacheSize := 31
  level := .warn

/-- An environment with blanks, odd spellings and an empty variable, and the settings from it. -/
theorem ofEnvironment_roundTrip_unkempt :
    ofEnvironment unkempt = .ok kempt ∧
    ofEnvironment kempt.toEnvironment = .ok kempt ∧
    (∀ l, l = kempt.defaultLocale ∨ kempt.fallback = some l →
      Locale.canonicalTag? l.tag.toList = some l.tag ∧ Locale.ofTag? l.tag = some l) ∧
    check kempt.toValue = .ok kempt := by
  have hread : ofEnvironment unkempt = .ok kempt := by
    apply (ofEnvironment_eq_ok_iff _ _).2
    decide +kernel
  exact ⟨hread, ofEnvironment_roundTrip hread⟩

end Settings

end Phrasebook

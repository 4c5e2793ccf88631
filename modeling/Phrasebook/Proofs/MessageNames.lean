import Phrasebook.Proofs.Loading.Index
import Phrasebook.Proofs.Loading.Parallel
import Phrasebook.Proofs.Tags

namespace Phrasebook

/-!
# Names of message files

A name states a domain, a tag and an extension with dots between them.  The extension and the tag
are found from the end, so that only the domain may have dots of its own.

* `cutLastDot?_eq_some_iff`: the text before and after the last dot.
* `Text.dropLastUnits_append`: what is cut off at the end is what was put there.
* `MessageFile.Composed`: a name made of a domain, a tag and an extension.
* `MessageFile.ofName_spec`: which names are passed over, which are read as message files, and which
  are refused.
-/

/-! ### The last dot -/

/-- What has no dot behind a dot is what is cut off. -/
theorem cutLastDot?_append (before : List Char) {after : List Char} (h : '.' ∉ after) :
    cutLastDot? (before ++ '.' :: after) = some (before, after) := by
  have hafter : ∀ c ∈ after.reverse, (c != '.') = true := by
    intro c hc
    refine bne_iff_ne.2 ?_
    rintro rfl
    exact h (List.mem_reverse.1 hc)
  have hdrop : ('.' :: before.reverse).dropWhile (· != '.') = '.' :: before.reverse :=
    List.dropWhile_cons_of_neg (by decide)
  have htake : ('.' :: before.reverse).takeWhile (· != '.') = [] :=
    List.takeWhile_cons_of_neg (by decide)
  have hreverse : (before ++ '.' :: after).reverse = after.reverse ++ '.' :: before.reverse := by
    simp
  rw [cutLastDot?, hreverse, List.dropWhile_append_of_pos hafter,
    List.takeWhile_append_of_pos hafter, hdrop, htake, List.append_nil]
  simp only [List.reverse_reverse]

/-- A text with a dot has a last one. -/
theorem exists_lastDot {s : List Char} (h : '.' ∈ s) :
    ∃ before after, s = before ++ '.' :: after ∧ '.' ∉ after := by
  obtain ⟨after, before, hreverse, hafter⟩ := List.eq_append_cons_of_mem (List.mem_reverse.2 h)
  refine ⟨before.reverse, after.reverse, ?_, mt List.mem_reverse.1 hafter⟩
  rw [← List.reverse_reverse s, hreverse]
  simp

/-- The last dot is the one that no other comes after. -/
theorem cutLastDot?_eq_some_iff {s before after : List Char} :
    cutLastDot? s = some (before, after) ↔ s = before ++ '.' :: after ∧ '.' ∉ after := by
  constructor
  · intro h
    obtain ⟨front, back, hs, hback⟩ :=
      exists_lastDot (s := s) (by rw [eq_of_cutLastDot? h]; simp)
    have hcut := cutLastDot?_append front hback
    rw [← hs, h] at hcut
    obtain ⟨rfl, rfl⟩ := Prod.mk.inj (Option.some.inj hcut)
    exact ⟨hs, hback⟩
  · rintro ⟨rfl, hafter⟩
    exact cutLastDot?_append before hafter

/-! ### Stems -/

/-- Taking away as many units as a text has takes away that text. -/
theorem Text.dropLastUnits_append (s t : List Char) :
    dropLastUnits (unitCount t) (s ++ t) = s := by
  have hgo : ∀ t s : List Char, dropLastUnits.go (unitCount t) (t ++ s) = s := by
    intro t s
    induction t with
    | nil =>
      cases s with
      | nil => rfl
      | cons c s => rfl
    | cons c t ih =>
      have hcount : unitCount (c :: t) = unitCount t + (charUnits c).length := by
        rw [unitCount, units_cons, List.length_append, Nat.add_comm]
        rfl
      have hpos : 0 < (charUnits c).length := by
        unfold charUnits
        simp only
        split <;> exact Nat.succ_pos _
      obtain ⟨k, hk⟩ := Nat.exists_eq_add_of_lt hpos
      rw [Nat.zero_add] at hk
      rw [hcount, hk, ← Nat.add_assoc, List.cons_append, dropLastUnits.go, hk, if_pos (by omega),
        Nat.add_assoc, Nat.add_sub_cancel, ih]
  have hreverse : unitCount t.reverse = unitCount t := by
    unfold unitCount units
    rw [List.length_flatMap, List.length_flatMap, List.map_reverse, List.sum_reverse]
  rw [dropLastUnits, List.reverse_append, ← hreverse, hgo, List.reverse_reverse]

namespace MessageFile

/-- What is left of a name without an extension that is plain in lower case. -/
theorem stem_eq {name : String} {before after : List Char}
    (hname : name.toList = before ++ '.' :: after) (h : ∀ c ∈ Text.lower after, Text.IsPlain c) :
    stem name (String.ofList (Text.lower after)) = before := by
  have hcount : Text.unitCount (Text.lower after) + 1 = Text.unitCount ('.' :: after) := by
    rw [Text.unitCount_lower h, Text.unitCount, Text.unitCount, Text.units_cons, List.length_append,
      Nat.add_comm]
    rfl
  rw [stem, String.toList_ofList, hcount, hname, Text.dropLastUnits_append]

/-- An extension is what stands behind the last dot, in lower case, if it is accepted. -/
theorem extension?_eq_some_iff {name : String} {extensions : List String} {extension : String} :
    extension? name extensions = some extension ↔
      ∃ before after, name.toList = before ++ '.' :: after ∧ '.' ∉ after ∧
        extension = String.ofList (Text.lower after) ∧ extension ∈ extensions := by
  rw [extension?, Option.bind_eq_some_iff]
  constructor
  · rintro ⟨⟨before, after⟩, hcut, hextension⟩
    obtain ⟨hname, hafter⟩ := cutLastDot?_eq_some_iff.1 hcut
    simp only [List.contains_iff_mem, Option.ite_none_right_eq_some, Option.some.injEq]
      at hextension
    obtain ⟨hmem, rfl⟩ := hextension
    exact ⟨before, after, hname, hafter, rfl, hmem⟩
  · rintro ⟨before, after, hname, hafter, rfl, hmem⟩
    refine ⟨(before, after), cutLastDot?_eq_some_iff.2 ⟨hname, hafter⟩, ?_⟩
    simp only [List.contains_iff_mem, if_pos hmem]

/-- Without a dot, or with another extension, there is none. -/
theorem extension?_eq_none_iff {name : String} {extensions : List String} :
    extension? name extensions = none ↔
      '.' ∉ name.toList ∨ ∃ before after, name.toList = before ++ '.' :: after ∧ '.' ∉ after ∧
        String.ofList (Text.lower after) ∉ extensions := by
  rw [← Option.not_isSome_iff_eq_none, Option.isSome_iff_exists]
  constructor
  · intro hnone
    by_cases hdot : '.' ∈ name.toList
    · obtain ⟨before, after, hname, hafter⟩ := exists_lastDot hdot
      refine Or.inr ⟨before, after, hname, hafter, fun hmem => hnone ?_⟩
      exact ⟨_, extension?_eq_some_iff.2 ⟨before, after, hname, hafter, rfl, hmem⟩⟩
    · exact Or.inl hdot
  · rintro hnone ⟨extension, hextension⟩
    obtain ⟨front, back, hname, hback, rfl, hmem⟩ := extension?_eq_some_iff.1 hextension
    rcases hnone with hdot | ⟨before, after, hname', hafter, hnot⟩
    · exact hdot (by rw [hname]; simp)
    · -- there is one last dot
      have hcut := cutLastDot?_append front hback
      rw [← hname, hname', cutLastDot?_append before hafter] at hcut
      obtain ⟨-, rfl⟩ := Prod.mk.inj (Option.some.inj hcut)
      exact hnot hmem

/-- A stem is a domain and a tag, neither of them empty, with the last dot between them. -/
theorem cutStem?_eq_some_iff {s : List Char} {domain tag : String} :
    cutStem? s = some (domain, tag) ↔
      s = domain.toList ++ '.' :: tag.toList ∧ '.' ∉ tag.toList ∧ domain ≠ "" ∧ tag ≠ "" := by
  have hcut : cutLastDot? s = some (domain.toList, tag.toList) ↔
      s = domain.toList ++ '.' :: tag.toList ∧ '.' ∉ tag.toList := cutLastDot?_eq_some_iff
  rw [← and_assoc, ← hcut, cutStem?]
  split
  · next hnone => simp [hnone]
  · next after hsome =>
    refine iff_of_false (by simp) ?_
    rintro ⟨hparts, hdomain, -⟩
    rw [hsome] at hparts
    exact hdomain (String.toList_eq_nil_iff.1 (Prod.mk.inj (Option.some.inj hparts)).1.symm)
  · next before hsome =>
    refine iff_of_false (by simp) ?_
    rintro ⟨hparts, -, htag⟩
    rw [hsome] at hparts
    exact htag (String.toList_eq_nil_iff.1 (Prod.mk.inj (Option.some.inj hparts)).2.symm)
  · next before after hbefore hafter hsome =>
    rw [hsome, Option.some.injEq, Option.some.injEq, Prod.mk.injEq, Prod.mk.injEq]
    constructor
    · rintro ⟨rfl, rfl⟩
      refine ⟨⟨String.toList_ofList.symm, String.toList_ofList.symm⟩, ?_, ?_⟩
      · exact fun h => hbefore (String.ofList_eq_empty_iff.1 h)
      · exact fun h => hafter (String.ofList_eq_empty_iff.1 h)
    · rintro ⟨⟨rfl, rfl⟩, -⟩
      exact ⟨String.ofList_toList, String.ofList_toList⟩

/-! ### Names -/

/-- A name made of a domain, a tag without dots that names a locale, and an accepted extension, with
    dots between them. -/
def Composed (name : String) (extensions : List String) (domain : String) (l : Locale) : Prop :=
  ∃ tag ext : String, name = domain ++ "." ++ tag ++ "." ++ ext ∧ domain ≠ "" ∧
    '.' ∉ tag.toList ∧ Locale.ofTag? tag = some l ∧
    String.ofList (Text.lower ext.toList) ∈ extensions

/-- The characters of a name that is put together. -/
theorem toList_composed (domain tag ext : String) :
    (domain ++ "." ++ tag ++ "." ++ ext).toList
      = (domain.toList ++ '.' :: tag.toList) ++ '.' :: ext.toList := by
  have hdot : ".".toList = ['.'] := rfl
  simp [String.toList_append, hdot]

/-- The message files are the names that are made so. -/
theorem ofName_eq_some_iff {name dir : String} {extensions : List String}
    (h : ∀ e ∈ extensions, ∀ c ∈ e.toList, Text.IsPlain c) {file : MessageFile} :
    ofName name dir extensions = .ok (some file) ↔
      file.path = Path.join dir name ∧ Composed name extensions file.domain file.locale := by
  -- what is accepted in lower case has plain characters, so the stem is cut where it should be
  have hplain : ∀ {after : List Char}, String.ofList (Text.lower after) ∈ extensions →
      ∀ c ∈ Text.lower after, Text.IsPlain c := by
    intro after hmem c hc
    exact h _ hmem c (by rwa [String.toList_ofList])
  constructor
  · intro hfile
    rw [ofName] at hfile
    split at hfile
    · exact absurd hfile (by simp)
    · next extension hextension =>
      obtain ⟨before, after, hname, -, rfl, hmem⟩ := extension?_eq_some_iff.1 hextension
      simp only [stem_eq hname (hplain hmem)] at hfile
      split at hfile
      · exact absurd hfile (by simp)
      · next domain tag hstem =>
        obtain ⟨rfl, htag, hdomain, -⟩ := cutStem?_eq_some_iff.1 hstem
        split at hfile
        · exact absurd hfile (by simp)
        · next l hl =>
          obtain rfl := Option.some.inj (Except.ok.inj hfile)
          refine ⟨rfl, tag, String.ofList after, ?_, hdomain, htag, hl, ?_⟩
          · rw [← String.toList_inj, toList_composed, String.toList_ofList]
            exact hname
          · rwa [String.toList_ofList]
  · rintro ⟨hpath, tag, ext, hname, hdomain, htag, hl, hmem⟩
    have htext := congrArg String.toList hname
    rw [toList_composed] at htext
    -- a dot in the extension would be there in lower case as well
    have hdot : '.' ∉ ext.toList := fun hdot =>
      absurd (hplain hmem '.' (Locale.dot_mem_lower hdot)) (by decide)
    have hextension : extension? name extensions = some (String.ofList (Text.lower ext.toList)) :=
      extension?_eq_some_iff.2 ⟨_, _, htext, hdot, rfl, hmem⟩
    have hempty : tag ≠ "" := by
      rintro rfl
      exact absurd hl (by rw [Locale.ofTag?_empty]; simp)
    have hstem : cutStem? (file.domain.toList ++ '.' :: tag.toList) = some (file.domain, tag) :=
      cutStem?_eq_some_iff.2 ⟨rfl, htag, hdomain, hempty⟩
    rw [ofName, hextension]
    simp only [stem_eq htext (hplain hmem), hstem, hl, ← hpath]

/-- A fault of a name is at the path of the name. -/
theorem path_of_ofName_error {name dir : String} {extensions : List String} {f : LoadFault}
    (h : ofName name dir extensions = .error f) : f.path = Path.join dir name := by
  rcases ofName_error_cases h with ⟨extension, rfl⟩ | ⟨tag, rfl⟩ <;> rfl

/-- A name is passed over if it has no accepted extension.  It is a message file if it is made of a
    domain, a tag that names a locale and an accepted extension, and then the file of this domain
    and locale, however the tag and the extension are spelled.  Any other name is refused. -/
theorem ofName_spec (name dir : String) {extensions : List String}
    (h : ∀ e ∈ extensions, ∀ c ∈ e.toList, Text.IsPlain c) :
    (ofName name dir extensions = .ok none ↔
      '.' ∉ name.toList ∨ ∃ before after, name.toList = before ++ '.' :: after ∧ '.' ∉ after ∧
        String.ofList (Text.lower after) ∉ extensions) ∧
    (∀ file, ofName name dir extensions = .ok (some file) ↔
      file.path = Path.join dir name ∧ Composed name extensions file.domain file.locale) ∧
    ((∃ f, ofName name dir extensions = .error f) ↔
      (∃ before after, name.toList = before ++ '.' :: after ∧ '.' ∉ after ∧
        String.ofList (Text.lower after) ∈ extensions) ∧
      ∀ domain l, ¬ Composed name extensions domain l) ∧
    (∀ f, ofName name dir extensions = .error f →
      (Fault.unloadable f).name = "CatalogueLoadError" ∧
      (Fault.unloadable f).code = "INVALID_FILENAME" ∧ f.path = Path.join dir name) ∧
    (∀ domain tag ext l, name = domain ++ "." ++ tag ++ "." ++ ext → domain ≠ "" →
      Locale.ofTag? tag = some l → String.ofList (Text.lower ext.toList) ∈ extensions →
      ofName name dir extensions = .ok (some ⟨Path.join dir name, domain, l⟩)) ∧
    (∀ tag l, Locale.Spells tag l → Locale.ofTag? tag = some l) ∧
    ∀ ext : String, ∀ e ∈ extensions, ext.toList.map Char.toLower = e.toList →
      String.ofList (Text.lower ext.toList) ∈ extensions := by
  have hnone : ofName name dir extensions = .ok none ↔ extension? name extensions = none :=
    Directory.ofName_eq_none_iff
  have hsome : ∀ {extension : String}, extension? name extensions = some extension →
      ofName name dir extensions ≠ .ok none := by
    intro extension hextension hskipped
    rw [hnone.1 hskipped] at hextension
    exact absurd hextension (by simp)
  refine ⟨hnone.trans extension?_eq_none_iff, fun file => ofName_eq_some_iff h, ⟨?_, ?_⟩,
    fun f hf => ⟨rfl, code_of_ofName hf, path_of_ofName_error hf⟩, ?_, ?_, ?_⟩
  -- a fault: the extension is accepted, and the rest is no name of a file
  · rintro ⟨f, hf⟩
    refine ⟨?_, fun domain l hcomposed => ?_⟩
    · have hread : ofName name dir extensions ≠ .ok none := by rw [hf]; simp
      obtain ⟨extension, hextension⟩ :=
        Option.isSome_iff_exists.1 (Directory.isSome_extension? hread)
      obtain ⟨before, after, hname, hafter, rfl, hmem⟩ := extension?_eq_some_iff.1 hextension
      exact ⟨before, after, hname, hafter, hmem⟩
    · have hfile : ofName name dir extensions = .ok (some ⟨Path.join dir name, domain, l⟩) :=
        (ofName_eq_some_iff h).2 ⟨rfl, hcomposed⟩
      rw [hf] at hfile
      exact absurd hfile (by simp)
  -- and back: neither passed over nor read
  · rintro ⟨⟨before, after, hname, hafter, hmem⟩, hnot⟩
    have hskipped := hsome (extension?_eq_some_iff.2 ⟨before, after, hname, hafter, rfl, hmem⟩)
    cases hread : ofName name dir extensions with
    | error f => exact ⟨f, rfl⟩
    | ok found =>
      cases found with
      | none => exact absurd hread hskipped
      | some file => exact absurd ((ofName_eq_some_iff h).1 hread).2 (hnot _ _)
  · intro domain tag ext l hname hdomain hl hmem
    exact (ofName_eq_some_iff h).2
      ⟨rfl, tag, ext, hname, hdomain, Locale.dot_not_mem_of_ofTag? hl, hl, hmem⟩
  · exact fun tag l hspells => Locale.ofTag?_of_spells hspells
  · intro ext e he hcase
    -- an extension that is accepted in another case has characters of ASCII alone
    have hascii : ∀ c ∈ ext.toList, c.toNat < 0x80 := by
      intro c hc
      have hlower : c.toLower ∈ e.toList := by
        rw [← hcase]
        exact List.mem_map_of_mem hc
      exact Text.ascii_of_toLower (h e he _ hlower).toNat.2
    rwa [Text.lower_of_ascii hascii, hcase, String.ofList_toList]

/-- A domain with a dot, a tag with a blank and the other separator, and an extension of which the
    first letter is a Kelvin sign. -/
theorem ofName_spec_kelvin :
    (∀ e ∈ ["kv"], ∀ c ∈ e.toList, Text.IsPlain c) ∧
      ∃ l : Locale, l.tag = "de-AT" ∧
        ofName "app.menu. De_aT.\u212AV" "i18n/" ["kv"]
          = .ok (some ⟨"i18n/app.menu. De_aT.\u212AV", "app.menu", l⟩) := by
  have hplain : ∀ e ∈ ["kv"], ∀ c ∈ e.toList, Text.IsPlain c := by simp; decide
  obtain ⟨l, hl, htag⟩ := Option.map_eq_some_iff.1
    (show (Locale.ofTag? " De_aT").map Locale.tag = some "de-AT" by decide +kernel)
  have hjoin : Path.join "i18n/" "app.menu. De_aT.\u212AV" = "i18n/app.menu. De_aT.\u212AV" := by
    decide +kernel
  obtain ⟨-, -, -, -, hcomposed, -⟩ := ofName_spec "app.menu. De_aT.\u212AV" "i18n/" hplain
  refine ⟨hplain, l, htag, ?_⟩
  rw [← hjoin]
  exact hcomposed "app.menu" " De_aT" "\u212AV" l rfl (by decide) hl (by decide +kernel)

end MessageFile

end Phrasebook

import Mathlib.Data.List.Forall2
import Phrasebook.Proofs.Locale
import Phrasebook.Proofs.Text.Case
import Phrasebook.Proofs.Text.Trim

namespace Phrasebook

/-!
# Tags read back

A tag is put into its canonical spelling before it is looked up.  The tags of the table are spelled
that way already, so a locale is found again under its own tag.

* `Text.lower_of_small`, `Text.upper_of_capital`: texts that are in the case asked for.
* `exists_parts`: a tag is a language code, or one with a region code behind a dash.
* `Locale.canonicalTag?_tag`: the tag of a locale is its own canonical spelling.
* `Locale.ofTag?_tag`: the tag of a locale names that locale.
* `Locale.Respells`: a tag in another letter case, with either separator and with blanks around it;
  `Locale.ofTag?_of_respells`: it names what the tag names.
* `Locale.Spells`: so spelled is the tag of a locale; `Locale.ofTag?_of_spells` reads these too.
* `Locale.dot_not_mem_of_ofTag?`: no tag that names a locale has a dot in it.
-/

namespace Text

/-! ### Texts in one case -/

/-- A character of ASCII that is its own lower case. -/
def IsSmall (c : Char) : Prop := c.toNat < 0x80 ∧ c.toLower = c

/-- A character of ASCII that is its own upper case. -/
def IsCapital (c : Char) : Prop := c.toNat < 0x80 ∧ c.toUpper = c

instance (c : Char) : Decidable (IsSmall c) :=
  inferInstanceAs (Decidable (_ ∧ _))

instance (c : Char) : Decidable (IsCapital c) :=
  inferInstanceAs (Decidable (_ ∧ _))

/-- Small letters and what has no case are their own lower case. -/
theorem lower_of_small {s : List Char} (h : ∀ c ∈ s, IsSmall c) : lower s = s := by
  rw [lower_of_ascii fun c hc => (h c hc).1]
  exact (List.map_congr_left fun c hc => (h c hc).2).trans (List.map_id s)

/-- Capitals and what has no case are their own upper case. -/
theorem upper_of_capital {s : List Char} (h : ∀ c ∈ s, IsCapital c) : upper s = s := by
  rw [upper_of_ascii fun c hc => (h c hc).1]
  exact (List.map_congr_left fun c hc => (h c hc).2).trans (List.map_id s)

end Text

/-! ### The parts of a tag -/

/-- A character that a code may hold: no blank, and none that separates parts. -/
def IsCodeChar (c : Char) : Prop :=
  Text.isBlank c = false ∧ Locale.isTagSeparator c = false

instance (c : Char) : Decidable (IsCodeChar c) :=
  inferInstanceAs (Decidable (_ ∧ _))

-- `List.all` keeps the check to the characters of the codes; there are finitely many characters,
-- and a bounded quantifier would be decided by going through all of them.
/-- The codes of languages are small letters. -/
theorem small_code : ∀ l ∈ languages, ∀ c ∈ l.code.toList, IsCodeChar c ∧ Text.IsSmall c := by
  have hall : (languages.all fun l =>
      l.code.toList.all fun c => decide (IsCodeChar c ∧ Text.IsSmall c)) = true := by
    decide +kernel
  simpa only [List.all_eq_true, decide_eq_true_eq] using hall

/-- The codes of regions are capital letters and digits. -/
theorem capital_region : ∀ l ∈ languages, ∀ r ∈ l.regions, ∀ c ∈ r.1.toList,
    IsCodeChar c ∧ Text.IsCapital c := by
  have hall : (languages.all fun l => l.regions.all fun r =>
      r.1.toList.all fun c => decide (IsCodeChar c ∧ Text.IsCapital c)) = true := by
    decide +kernel
  simpa only [List.all_eq_true, decide_eq_true_eq] using hall

/-- A tag is the code of a language, or that with the code of a region behind a dash. -/
theorem exists_parts (l : Locale) :
    ∃ code : List Char, (∀ c ∈ code, IsCodeChar c ∧ Text.IsSmall c) ∧
      (l.tag.toList = code ∨
        ∃ region : List Char, (∀ c ∈ region, IsCodeChar c ∧ Text.IsCapital c) ∧
          l.tag.toList = code ++ '-' :: region) := by
  obtain ⟨lang, hlang, hentry⟩ := List.mem_flatMap.1 (List.get_mem localeTable l.position)
  refine ⟨lang.code.toList, small_code lang hlang, ?_⟩
  have htag : l.tag = (localeTable.get l.position).tag := rfl
  rcases List.mem_cons.1 hentry with heq | hmem
  · left
    rw [htag, heq]
    rfl
  · right
    obtain ⟨r, hr, heq⟩ := List.mem_map.1 hmem
    refine ⟨r.1.toList, capital_region lang hlang r hr, ?_⟩
    rw [htag, ← heq]
    show (lang.code ++ "-" ++ r.1).toList = _
    have hdash : "-".toList = ['-'] := rfl
    rw [String.toList_append, String.toList_append, hdash, List.append_assoc]
    rfl

theorem tag_ne_nil (l : Locale) : l.tag.toList ≠ [] := by
  have htable : ∀ e ∈ localeTable, e.tag.toList ≠ [] := by decide +kernel
  exact htable _ (List.get_mem localeTable l.position)

namespace Locale

/-- A tag has no outer blanks. -/
theorem trimmed_tag (l : Locale) : Text.Trimmed l.tag.toList := by
  apply Text.trimmed_of_forall
  intro c hc
  obtain ⟨code, hcode, heq | ⟨region, hregion, heq⟩⟩ := exists_parts l
  · rw [heq] at hc
    exact (hcode c hc).1.1
  · rw [heq, List.mem_append, List.mem_cons] at hc
    rcases hc with hc | rfl | hc
    · exact (hcode c hc).1.1
    · decide
    · exact (hregion c hc).1.1

/-- The tag of a locale is its own canonical spelling. -/
theorem canonicalTag?_tag (l : Locale) : canonicalTag? l.tag.toList = some l.tag := by
  have hone : ∀ {cs : List Char}, (∀ c ∈ cs, isTagSeparator c = false) →
      cs.splitOnP isTagSeparator = [cs] := fun h => List.splitOnP_eq_singleton h
  rw [canonicalTag?, Text.trim_of_trimmed l.trimmed_tag]
  obtain ⟨code, hcode, heq | ⟨region, hregion, heq⟩⟩ := exists_parts l
  · -- a language on its own
    rw [hone (by rw [heq]; exact fun c hc => (hcode c hc).1.2)]
    have hsmall : Text.lower l.tag.toList = l.tag.toList :=
      Text.lower_of_small (by rw [heq]; exact fun c hc => (hcode c hc).2)
    simp only [hsmall, String.ofList_toList]
  · -- a language and a region on the two sides of a dash
    rw [heq, List.splitOnP_append_cons _ _ (by decide), hone fun c hc => (hcode c hc).1.2,
      hone fun c hc => (hregion c hc).1.2]
    have hsmall : Text.lower code = code := Text.lower_of_small fun c hc => (hcode c hc).2
    have hcapital : Text.upper region = region :=
      Text.upper_of_capital fun c hc => (hregion c hc).2
    show some (String.ofList (Text.lower code ++ '-' :: Text.upper region)) = some l.tag
    rw [hsmall, hcapital, ← heq, String.ofList_toList]

/-- The tag of a locale names that locale. -/
theorem ofTag?_tag (l : Locale) : ofTag? l.tag = some l := by
  rw [ofTag?, canonicalTag?_tag, Option.bind_some, ofCanonical?_tag]

/-- The empty text is the tag of no locale. -/
theorem ofTag?_empty : ofTag? "" = none := by
  have hcanonical : canonicalTag? "".toList = some "" := rfl
  rw [ofTag?, hcanonical, Option.bind_some, ofCanonical?, List.find?_eq_none]
  intro l _ htag
  exact tag_ne_nil l (String.toList_eq_nil_iff.2 (of_decide_eq_true htag))

/-! ### Other spellings -/

/-- Two characters that stand for each other in tags: a letter in its two cases, and the two
    separators. -/
def SameLetter (c d : Char) : Prop :=
  c.toLower = d.toLower ∨ (isTagSeparator c = true ∧ isTagSeparator d = true)

/-- The tag of a locale in any letter case, with either separator and with blanks around it. -/
def Spells (tag : String) (l : Locale) : Prop :=
  ∃ left core right : List Char, tag.toList = left ++ core ++ right ∧
    (∀ c ∈ left, Text.isBlank c = true) ∧ (∀ c ∈ right, Text.isBlank c = true) ∧
    List.Forall₂ SameLetter core l.tag.toList

/-- A tag in any letter case, with either separator at each place and with blanks around it.  The
    tag need not name a locale. -/
def Respells (tag' tag : String) : Prop :=
  ∃ left core right : List Char, tag'.toList = left ++ core ++ right ∧
    (∀ c ∈ left, Text.isBlank c = true) ∧ (∀ c ∈ right, Text.isBlank c = true) ∧
    List.Forall₂ SameLetter core tag.toList

/-- The character that stands for all that may take its place in a tag. -/
def tagLetter (c : Char) : Char :=
  if isTagSeparator c then '-' else c.toLower

/-- Lower case neither makes a separator nor loses one. -/
theorem isTagSeparator_toLower (c : Char) : isTagSeparator c.toLower = isTagSeparator c :=
  Text.toLower_congr (by decide +kernel) c

/-- A letter of a tag counts in lower case. -/
theorem tagLetter_of_letter {c : Char} (h : isTagSeparator c = false) :
    tagLetter c = c.toLower := by
  rw [tagLetter, if_neg (by rw [h]; exact Bool.false_ne_true)]

/-- A separator stays one, and a letter becomes none. -/
theorem isTagSeparator_tagLetter (c : Char) : isTagSeparator (tagLetter c) = isTagSeparator c := by
  by_cases h : isTagSeparator c = true
  · rw [tagLetter, if_pos h, h]
    rfl
  · rw [tagLetter, if_neg h, isTagSeparator_toLower]

/-- A blank stays one, and nothing else becomes one. -/
theorem isBlank_tagLetter (c : Char) : Text.isBlank (tagLetter c) = Text.isBlank c := by
  by_cases h : isTagSeparator c = true
  · rw [tagLetter, if_pos h]
    rcases (by simpa [isTagSeparator] using h : c = '-' ∨ c = '_') with rfl | rfl <;> decide
  · rw [tagLetter, if_neg h]
    exact Text.toLower_congr (f := Text.isBlank) (by decide +kernel) c

/-- Letters that count the same are the same in the normal form. -/
theorem SameLetter.tagLetter_eq {c d : Char} (h : SameLetter c d) : tagLetter c = tagLetter d := by
  rcases h with hlower | ⟨hc, hd⟩
  · have hletter : ∀ c : Char, tagLetter c.toLower = tagLetter c :=
      Text.toLower_congr (by decide +kernel)
    rw [← hletter c, hlower, hletter d]
  · rw [tagLetter, if_pos hc, tagLetter, if_pos hd]

/-- So are texts of such letters. -/
theorem map_tagLetter_eq {cs ds : List Char} (h : List.Forall₂ SameLetter cs ds) :
    cs.map tagLetter = ds.map tagLetter := by
  induction h with
  | nil => rfl
  | cons hsame _ ih => rw [List.map_cons, List.map_cons, hsame.tagLetter_eq, ih]

/-- A text cut at its separators after a change of letters that keeps them. -/
theorem splitOnP_map {α : Type} {p : α → Bool} {f g : α → α} (hp : ∀ x, p (f x) = p x)
    (hfg : ∀ x, p x = false → f x = g x) (xs : List α) :
    (xs.map f).splitOnP p = (xs.splitOnP p).map (List.map g) := by
  induction xs with
  | nil => rfl
  | cons x xs ih =>
    rw [List.map_cons, List.splitOnP_cons_eq_if_modifyHead, List.splitOnP_cons_eq_if_modifyHead, hp,
      ih]
    split
    · rfl
    · next hx =>
      obtain ⟨part, rest, hparts⟩ := List.exists_cons_of_ne_nil (List.splitOnP_ne_nil p xs)
      rw [hparts, hfg x (by simpa using hx)]
      rfl

/-- A tag with the letters that stand for its own has the same canonical spelling. -/
theorem canonicalTag?_map_tagLetter (s : List Char) :
    canonicalTag? (s.map tagLetter) = canonicalTag? s := by
  rw [canonicalTag?, Text.trim_map isBlank_tagLetter,
    splitOnP_map isTagSeparator_tagLetter (fun _ => tagLetter_of_letter), canonicalTag?]
  -- the match reads parts up to the second, and sees a third
  cases (Text.trim s).splitOnP isTagSeparator with
  | nil => rfl
  | cons language rest =>
    cases rest with
    | nil => simp only [List.map_cons, List.map_nil, Text.lower_map_toLower]
    | cons region rest =>
      cases rest with
      | nil =>
        simp only [List.map_cons, List.map_nil, Text.lower_map_toLower, Text.upper_map_toLower]
      | cons => rfl

/-- Another spelling of a tag has the same canonical form. -/
theorem canonicalTag?_of_respells {tag' tag : String} (h : Respells tag' tag) :
    canonicalTag? tag'.toList = canonicalTag? tag.toList := by
  obtain ⟨left, core, right, htag, hleft, hright, hcore⟩ := h
  have htrim : Text.trim tag'.toList = Text.trim core := by
    rw [htag, Text.trim_append_blank hright, Text.trim_blank_append hleft]
  calc canonicalTag? tag'.toList
      = canonicalTag? core := by rw [canonicalTag?, htrim, canonicalTag?]
    _ = canonicalTag? (core.map tagLetter) := (canonicalTag?_map_tagLetter core).symm
    _ = canonicalTag? tag.toList := by rw [map_tagLetter_eq hcore, canonicalTag?_map_tagLetter]

/-- A tag names what it names in every other spelling, be that a locale or none. -/
theorem ofTag?_of_respells {tag' tag : String} (h : Respells tag' tag) :
    ofTag? tag' = ofTag? tag := by
  rw [ofTag?, canonicalTag?_of_respells h, ofTag?]

/-- Every spelling of the tag of a locale names that locale. -/
theorem ofTag?_of_spells {tag : String} {l : Locale} (h : Spells tag l) : ofTag? tag = some l := by
  have hrespells : Respells tag l.tag := h
  rw [ofTag?_of_respells hrespells, ofTag?_tag]

/-! ### Dots -/

/-- No tag has a dot. -/
theorem dot_not_mem_tag (l : Locale) : '.' ∉ l.tag.toList := by
  have htable : (localeTable.all fun e => !e.tag.toList.contains '.') = true := by decide +kernel
  have hentry := List.all_eq_true.1 htable _ (List.get_mem localeTable l.position)
  rw [Bool.not_eq_true', List.contains_eq_mem, decide_eq_false_iff_not] at hentry
  exact hentry

/-- A dot has no case. -/
theorem dot_mem_lower {s : List Char} (h : '.' ∈ s) : '.' ∈ Text.lower s := by
  have hafter : ∀ before, '.' ∈ Text.lowerAfter before s := by
    induction s with
    | nil => exact absurd h (by simp)
    | cons c s ih =>
      intro before
      rw [Text.lowerAfter, List.mem_append]
      rcases List.mem_cons.1 h with rfl | h
      · have hsigma : ('.' == 'Σ') = false := by decide
        rw [hsigma, Bool.false_and, Bool.false_and, if_neg Bool.false_ne_true]
        exact Or.inl (by decide)
      · exact Or.inr (ih h _)
  exact hafter []

/-- A dot stays in upper case. -/
theorem dot_mem_upper {s : List Char} (h : '.' ∈ s) : '.' ∈ Text.upper s :=
  List.mem_flatMap.2 ⟨'.', h, by decide⟩

/-- What does not separate the parts of a text is in one of them. -/
theorem exists_mem_splitOnP {α : Type} {p : α → Bool} {xs : List α} {x : α} (hx : x ∈ xs)
    (hp : p x = false) : ∃ part ∈ xs.splitOnP p, x ∈ part := by
  induction xs with
  | nil => exact absurd hx (by simp)
  | cons y ys ih =>
    rw [List.splitOnP_cons_eq_if_modifyHead]
    obtain ⟨first, rest, hparts⟩ := List.exists_cons_of_ne_nil (List.splitOnP_ne_nil p ys)
    rw [hparts] at ih ⊢
    rcases List.mem_cons.1 hx with rfl | hx
    · rw [if_neg (by rw [hp]; exact Bool.false_ne_true)]
      exact ⟨x :: first, List.mem_cons_self, List.mem_cons_self⟩
    · obtain ⟨part, hpart, hmem⟩ := ih hx
      split
      · exact ⟨part, List.mem_cons_of_mem _ hpart, hmem⟩
      · rcases List.mem_cons.1 hpart with rfl | hpart
        · exact ⟨y :: part, List.mem_cons_self, List.mem_cons_of_mem _ hmem⟩
        · exact ⟨part, List.mem_cons_of_mem _ hpart, hmem⟩

/-- No tag that names a locale has a dot in it. -/
theorem dot_not_mem_of_ofTag? {tag : String} {l : Locale} (h : ofTag? tag = some l) :
    '.' ∉ tag.toList := by
  intro hmem
  rw [ofTag?] at h
  obtain ⟨canonical, hcanonical, hfind⟩ := Option.bind_eq_some_iff.1 h
  have htag : l.tag = canonical := by
    rw [ofCanonical?] at hfind
    have hfound := List.find?_some hfind
    exact of_decide_eq_true hfound
  -- trimming keeps the dot, and one of the parts has it
  have htrim : '.' ∈ Text.trim tag.toList := by
    obtain ⟨left, right, hleft, hright, hsplit⟩ := Text.exists_surrounded tag.toList
    rw [hsplit, List.mem_append, List.mem_append] at hmem
    rcases hmem with (hmem | hmem) | hmem
    · exact absurd (hleft _ hmem) (by decide)
    · exact hmem
    · exact absurd (hright _ hmem) (by decide)
  obtain ⟨part, hpart, hdot⟩ :=
    exists_mem_splitOnP (p := isTagSeparator) htrim (by decide)
  refine dot_not_mem_tag l ?_
  rw [htag]
  unfold canonicalTag? at hcanonical
  split at hcanonical
  · next language hsplit =>
    rw [hsplit, List.mem_singleton] at hpart
    rw [← Option.some.inj hcanonical, String.toList_ofList, ← hpart]
    exact dot_mem_lower hdot
  · next language region hsplit =>
    rw [hsplit, List.mem_cons, List.mem_singleton] at hpart
    rw [← Option.some.inj hcanonical, String.toList_ofList, List.mem_append, List.mem_cons]
    rcases hpart with rfl | rfl
    · exact Or.inl (dot_mem_lower hdot)
    · exact Or.inr (Or.inr (dot_mem_upper hdot))
  · exact absurd hcanonical (by simp)

end Locale

end Phrasebook

import Phrasebook.Bag
import Phrasebook.LocaleRef
import Phrasebook.Proofs.MessageNames

namespace Phrasebook

/-!
# One locale under every spelling

A tag may be written in any letter case, with either separator and with blanks around it.  All its
spellings name one locale or none, however far beyond ASCII the rest of the tag lies.

* `localeOfTag_eq_ok_iff`, `localeOfTag_eq_error_iff`: what reading a tag ends with.
* `MessageFile.ofName_tagged`: the message file whose name has a given tag.
* `localeOfTag_of_respells`: another spelling names the same locale, which has one place in a bag
  and one in the names of message files.
-/

/-- A tag is read as the locale that it names. -/
theorem localeOfTag_eq_ok_iff {tag : String} {l : Locale} :
    localeOfTag tag = .ok l ↔ Locale.ofTag? tag = some l := by
  rw [localeOfTag]
  cases Locale.ofTag? tag <;> simp

/-- A tag that names no locale is a fault. -/
theorem localeOfTag_eq_error_iff {tag : String} {f : Fault} :
    localeOfTag tag = .error f ↔ Locale.ofTag? tag = none ∧ f = .unknownLocale tag := by
  rw [localeOfTag]
  cases Locale.ofTag? tag with
  | none => simp [eq_comm]
  | some l => simp

/-- The message file whose name is made of a domain, a tag and an extension. -/
theorem MessageFile.ofName_tagged {extensions : List String}
    (h : ∀ e ∈ extensions, ∀ c ∈ e.toList, Text.IsPlain c) {domain tag ext : String} {l : Locale}
    (hdomain : domain ≠ "") (htag : Locale.ofTag? tag = some l)
    (hext : String.ofList (Text.lower ext.toList) ∈ extensions) (dir : String) :
    ofName (domain ++ "." ++ tag ++ "." ++ ext) dir extensions
      = .ok (some ⟨Path.join dir (domain ++ "." ++ tag ++ "." ++ ext), domain, l⟩) :=
  (ofName_eq_some_iff h).2
    ⟨rfl, tag, ext, rfl, hdomain, Locale.dot_not_mem_of_ofTag? htag, htag, hext⟩

/-- A catalogue put into a bag after another of its locale is merged into that one. -/
theorem Bag.get?_insert_insert (b : Bag) {c d : Catalogue} (h : c.locale = d.locale) :
    ((b.insert c).insert d).get? d.locale
      = some ((((b.get? d.locale).getD { locale := d.locale }).merge c).merge d) := by
  have hfirst : (b.insert c).get? d.locale
      = some (((b.get? d.locale).getD { locale := d.locale }).merge c) := by
    rw [insert, get?, Dict.get?_insert, if_pos h.symm, h]
  rw [insert, get?, Dict.get?_insert, if_pos rfl, hfirst, Option.getD_some]

/-- Another spelling of a tag names what the tag names.  Either both name one locale, or both are
    refused, each as it is written.  The locale named is found again under its own tag, and what is
    filed under either spelling is filed under that locale: a catalogue in a bag, and a message file
    by its name. -/
theorem localeOfTag_of_respells {tag' tag : String} (h : Locale.Respells tag' tag) :
    Locale.ofTag? tag' = Locale.ofTag? tag ∧
    ((∃ l, localeOfTag tag' = .ok l ∧ localeOfTag tag = .ok l) ∨
      (localeOfTag tag' = .error (.unknownLocale tag') ∧
        localeOfTag tag = .error (.unknownLocale tag))) ∧
    (∀ l, localeOfTag tag = .ok l →
      (localeOfTag tag' >>= fun l' => localeOfTag l'.tag) = .ok l ∧
      (∀ (b : Bag) (c' c : Catalogue), localeOfTag tag' = .ok c'.locale → c.locale = l →
        ((b.insert c').insert c).get? l
          = some ((((b.get? l).getD { locale := l }).merge c').merge c)) ∧
      ∀ (extensions : List String), (∀ e ∈ extensions, ∀ c ∈ e.toList, Text.IsPlain c) →
        ∀ dir domain ext : String, domain ≠ "" →
          String.ofList (Text.lower ext.toList) ∈ extensions → ∀ spelling ∈ [tag', tag],
            MessageFile.ofName (domain ++ "." ++ spelling ++ "." ++ ext) dir extensions
              = .ok (some
                ⟨Path.join dir (domain ++ "." ++ spelling ++ "." ++ ext), domain, l⟩)) := by
  -- all of it follows from this: both spellings have the same canonical form
  have hsame : Locale.ofTag? tag' = Locale.ofTag? tag := Locale.ofTag?_of_respells h
  refine ⟨hsame, ?_, fun l hl => ?_⟩
  · cases hl : Locale.ofTag? tag with
    | some l =>
      exact Or.inl ⟨l, localeOfTag_eq_ok_iff.2 (hsame.trans hl), localeOfTag_eq_ok_iff.2 hl⟩
    | none =>
      exact Or.inr ⟨localeOfTag_eq_error_iff.2 ⟨hsame.trans hl, rfl⟩,
        localeOfTag_eq_error_iff.2 ⟨hl, rfl⟩⟩
  · have htag : Locale.ofTag? tag = some l := localeOfTag_eq_ok_iff.1 hl
    have htag' : localeOfTag tag' = .ok l := localeOfTag_eq_ok_iff.2 (hsame.trans htag)
    refine ⟨?_, ?_, ?_⟩
    · rw [htag']
      exact localeOfTag_eq_ok_iff.2 l.ofTag?_tag
    · rintro b c' c hc' rfl
      exact b.get?_insert_insert (Except.ok.inj (hc'.symm.trans htag'))
    -- a file name has the locale of its tag, in either spelling
    · intro extensions hplain dir domain ext hdomain hext spelling hspelling
      refine MessageFile.ofName_tagged hplain hdomain ?_ hext dir
      rcases List.mem_cons.1 hspelling with rfl | hspelling
      · exact hsame.trans htag
      · rwa [List.mem_singleton.1 hspelling]

/-- Two spellings of the tag of a variant, neither of them its own, one with blanks of two kinds
    around it: both are refused or read alike, and here they are read. -/
theorem localeOfTag_of_respells_variant :
    Locale.Respells "\u3000eN_gB\t" "EN-Gb" ∧
      ∃ l : Locale, l.tag = "en-GB" ∧ localeOfTag "EN-Gb" = .ok l ∧
        Locale.ofTag? "\u3000eN_gB\t" = some l ∧
        MessageFile.ofName "menu.\u3000eN_gB\t.json" "" ["json"]
          = .ok (some ⟨Path.join "" "menu.\u3000eN_gB\t.json", "menu", l⟩) := by
  have hletters :
      List.Forall₂ Locale.SameLetter ['e', 'N', '_', 'g', 'B'] ['E', 'N', '-', 'G', 'b'] := by
    simp only [List.forall₂_cons, List.forall₂_nil_left_iff, Locale.SameLetter]
    decide
  have h : Locale.Respells "\u3000eN_gB\t" "EN-Gb" :=
    ⟨['\u3000'], ['e', 'N', '_', 'g', 'B'], ['\t'], rfl, by simp; decide, by simp; decide, hletters⟩
  obtain ⟨l, hl, htag⟩ := Option.map_eq_some_iff.1
    (show (Locale.ofTag? "EN-Gb").map Locale.tag = some "en-GB" by decide +kernel)
  obtain ⟨hsame, -, hknown⟩ := localeOfTag_of_respells h
  have hread : localeOfTag "EN-Gb" = .ok l := localeOfTag_eq_ok_iff.2 hl
  obtain ⟨-, -, hfile⟩ := hknown l hread
  refine ⟨h, l, htag, hread, hsame.trans hl, ?_⟩
  have hplain : ∀ e ∈ ["json"], ∀ c ∈ e.toList, Text.IsPlain c := by simp; decide
  have hname : "menu" ++ "." ++ "\u3000eN_gB\t" ++ "." ++ "json" = "menu.\u3000eN_gB\t.json" := by
    decide
  have hnamed := hfile ["json"] hplain "" "menu" "json" (by decide) (by decide +kernel)
    "\u3000eN_gB\t" List.mem_cons_self
  rwa [hname] at hnamed

end Phrasebook

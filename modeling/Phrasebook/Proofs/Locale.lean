import Mathlib.Algebra.Group.Nat.Defs
import Phrasebook.Locale

namespace Phrasebook

/-!
# The table of locales

Every locale has a tag of its own, and every regional variant has its language in the table.

* `marksApart`, `nodup_of_marksApart`: a test in one pass that no number stands twice in a list.
* `nodup_codes`, `nodup_tags`: no code of a language and no tag of a locale is there twice.
* `Locale.eq_of_tag_eq`: a tag belongs to one locale.
* `Locale.language_base`, `Locale.isVariant_base`: the base of a locale is its language.
* `Locale.chain_eq`: the chain of a locale is that locale, and after a variant its base.
* `Locale.sort_congr`: the canonical order of locales is one.
-/

/-! ### Codes and tags are distinct -/

/-- Whether no number of a list stands there twice or is a bit of `marks`. -/
def marksApart (marks : Nat) : List Nat → Bool
  | [] => true
  | n :: ns => !marks.testBit n && marksApart (marks ||| 2 ^ n) ns

/-- Marks that are all set apart belong to different numbers. -/
theorem nodup_of_marksApart {ns : List Nat} {marks : Nat} (h : marksApart marks ns = true) :
    ns.Nodup ∧ ∀ n ∈ ns, marks.testBit n = false := by
  induction ns generalizing marks with
  | nil => exact ⟨List.nodup_nil, fun _ hn => absurd hn List.not_mem_nil⟩
  | cons n ns ih =>
    rw [marksApart, Bool.and_eq_true, Bool.not_eq_true'] at h
    obtain ⟨hnodup, hunmarked⟩ := ih h.2
    -- the rest avoids the old marks, and the new one as well
    have hrest : ∀ m ∈ ns, marks.testBit m = false ∧ n ≠ m := by
      intro m hm
      have hbit := hunmarked m hm
      rw [Nat.testBit_or, Nat.testBit_two_pow, Bool.or_eq_false_iff] at hbit
      exact ⟨hbit.1, of_decide_eq_false hbit.2⟩
    refine ⟨List.nodup_cons.2 ⟨fun hmem => (hrest n hmem).2 rfl, hnodup⟩, ?_⟩
    intro m hm
    rcases List.mem_cons.1 hm with rfl | hm
    · exact h.1
    · exact (hrest m hm).1

/-- The code of a language as a number in base 32. -/
def Language.number (l : Language) : Nat :=
  l.code.toList.foldl (fun n c => n * 32 + (c.toNat - 'a'.toNat)) 0

/-- No two languages have one code. -/
theorem nodup_codes : languages.Pairwise fun a b => a.code ≠ b.code := by
  have hmarks : marksApart 0 (languages.map Language.number) = true := by decide +kernel
  have hnumbers := List.pairwise_map.1 (nodup_of_marksApart hmarks).1
  refine hnumbers.imp fun {a b} hne heq => hne ?_
  rw [Language.number, Language.number, heq]

/-- No code of a language has a hyphen. -/
theorem dash_not_mem_code : ∀ l ∈ languages, '-' ∉ l.code.toList := by
  decide +kernel

/-- No region of a language is listed twice. -/
theorem nodup_regions : ∀ l ∈ languages, (l.regions.map Prod.fst).Nodup := by
  decide +kernel

/-- The table has at least eight locales. -/
theorem lt_length_localeTable {n : Nat} (h : n < 8) : n < localeTable.length :=
  Nat.lt_of_lt_of_le h (by decide +kernel)

/-- The entries of a language are for it. -/
theorem language_of_mem_entries {l : Language} {e : LocaleEntry} (h : e ∈ l.entries) :
    e.language = l.code := by
  rcases List.mem_cons.1 h with rfl | h
  · rfl
  · obtain ⟨r, -, rfl⟩ := List.mem_map.1 h
    rfl

/-- A tag starts with its language, up to the first dash. -/
theorem takeWhile_tag {e : LocaleEntry} (h : '-' ∉ e.language.toList) :
    e.tag.toList.takeWhile (· ≠ '-') = e.language.toList := by
  have hall : ∀ c ∈ e.language.toList, decide (c ≠ '-') = true :=
    fun c hc => decide_eq_true fun hdash => h (hdash ▸ hc)
  unfold LocaleEntry.tag
  cases e.region with
  | none =>
    have hwhole : (e.language.toList ++ []).takeWhile (· ≠ '-') = e.language.toList ++ [] :=
      List.takeWhile_append_of_pos hall
    rwa [List.append_nil] at hwhole
  | some r =>
    show (e.language ++ "-" ++ r).toList.takeWhile _ = _
    have hdash : "-".toList = ['-'] := rfl
    rw [String.toList_append, String.toList_append, hdash, List.append_assoc,
      List.takeWhile_append_of_pos hall]
    simp

/-- No two entries of the table have one tag. -/
theorem nodup_tags : (localeTable.map LocaleEntry.tag).Nodup := by
  rw [localeTable, List.map_flatMap]
  refine List.pairwise_flatMap.2 ⟨fun l hl => ?_, ?_⟩
  · -- in one language the tags differ in their regions
    have hregions := nodup_regions l hl
    show ((LocaleEntry.tag _) :: (l.regions.map _).map LocaleEntry.tag).Nodup
    rw [List.map_map]
    refine List.nodup_cons.2 ⟨fun hmem => ?_, ?_⟩
    · obtain ⟨r, -, hr⟩ := List.mem_map.1 hmem
      have heq : (l.code ++ "-" ++ r.1).toList = l.code.toList := congrArg String.toList hr
      have hlength := congrArg List.length heq
      simp at hlength
    · refine List.pairwise_map.2 ((List.pairwise_map.1 hregions).imp fun {r r'} hne heq => hne ?_)
      have htags : (l.code ++ "-" ++ r.1).toList = (l.code ++ "-" ++ r'.1).toList :=
        congrArg String.toList heq
      simp only [String.toList_append] at htags
      exact String.toList_inj.1 (List.append_cancel_left htags)
  · -- in two languages they differ before the dash
    have hmem := List.Pairwise.and_mem.1 nodup_codes
    refine hmem.imp fun {a b} ⟨ha, hb, hne⟩ t ht t' ht' heq => hne ?_
    obtain ⟨e, he, rfl⟩ := List.mem_map.1 ht
    obtain ⟨e', he', rfl⟩ := List.mem_map.1 ht'
    have hcode := language_of_mem_entries he
    have hcode' := language_of_mem_entries he'
    have hstart := takeWhile_tag (e := e) (hcode ▸ dash_not_mem_code a ha)
    have hstart' := takeWhile_tag (e := e') (hcode' ▸ dash_not_mem_code b hb)
    rw [heq, hstart'] at hstart
    rw [← hcode, ← hcode', String.toList_inj.1 hstart]

namespace Locale

/-- A tag belongs to one locale. -/
theorem eq_of_tag_eq {a b : Locale} (h : a.tag = b.tag) : a = b := by
  have htags := List.pairwise_map.1 nodup_tags
  have hapart : ∀ a b : Locale, a.position.val < b.position.val → a.tag ≠ b.tag :=
    fun a b hlt => List.pairwise_iff_getElem.1 htags _ _ a.position.isLt b.position.isLt hlt
  rcases Nat.lt_trichotomy a.position.val b.position.val with hlt | heq | hlt
  · exact absurd h (hapart a b hlt)
  · obtain ⟨i⟩ := a
    obtain ⟨j⟩ := b
    have hij : i = j := Fin.ext heq
    rw [hij]
  · exact absurd h.symm (hapart b a hlt)

/-- The tag of a locale names it. -/
theorem ofCanonical?_tag (l : Locale) : ofCanonical? l.tag = some l := by
  rw [ofCanonical?]
  have hsome : (all.find? fun l' => decide (l'.tag = l.tag)).isSome = true := by
    rw [List.find?_isSome]
    exact ⟨l, mem_all l, by simp⟩
  obtain ⟨l', hl'⟩ := Option.isSome_iff_exists.1 hsome
  have hfound := List.find?_some hl'
  rw [hl', eq_of_tag_eq (of_decide_eq_true hfound)]

/-! ### The language of a variant -/

/-- The language of every locale is in the table. -/
theorem exists_language (l : Locale) :
    ∃ b : Locale, b.tag = l.language ∧ b.language = l.language ∧ b.isVariant = false := by
  obtain ⟨lang, hlang, hentry⟩ := List.mem_flatMap.1 (List.get_mem localeTable l.position)
  have hcode : l.language = lang.code := language_of_mem_entries hentry
  have hmem : (⟨lang.code, none, lang.name⟩ : LocaleEntry) ∈ localeTable :=
    List.mem_flatMap.2 ⟨lang, hlang, List.mem_cons_self⟩
  obtain ⟨i, hi⟩ := List.get_of_mem hmem
  refine ⟨⟨i⟩, ?_, ?_, ?_⟩
  · rw [tag, entry, hi, hcode]
    rfl
  · rw [language, entry, hi, hcode]
  · rw [isVariant, region, entry, hi]
    rfl

/-- A variant has the language that it belongs to as its parent, and a language has none. -/
theorem parent?_eq (l : Locale) :
    (l.isVariant = false ∧ l.parent? = none) ∨
      (l.isVariant = true ∧ ∃ b, l.parent? = some b ∧ b.language = l.language ∧
        b.isVariant = false) := by
  cases hvariant : l.isVariant with
  | false => exact Or.inl ⟨rfl, by rw [parent?, hvariant]; rfl⟩
  | true =>
    obtain ⟨b, htag, hlanguage, hb⟩ := l.exists_language
    refine Or.inr ⟨rfl, b, ?_, hlanguage, hb⟩
    rw [parent?, if_pos hvariant, ← htag, ofCanonical?_tag]

/-- A base locale has the language of its variants. -/
theorem language_base (l : Locale) : l.base.language = l.language := by
  rcases l.parent?_eq with ⟨-, hparent⟩ | ⟨-, b, hparent, hlanguage, -⟩
  · rw [base, hparent]
    rfl
  · rw [base, hparent]
    exact hlanguage

/-- A base locale is no variant. -/
theorem isVariant_base (l : Locale) : l.base.isVariant = false := by
  rcases l.parent?_eq with ⟨hvariant, hparent⟩ | ⟨-, b, hparent, -, hb⟩
  · rw [base, hparent]
    exact hvariant
  · rw [base, hparent]
    exact hb

/-- A locale that is no variant is its own base. -/
theorem base_of_not_isVariant {l : Locale} (h : l.isVariant = false) : l.base = l := by
  rw [base, parent?, h]
  rfl

/-- The chain of a locale is that locale, and after a variant its base. -/
theorem chain_eq (l : Locale) : l.chain = if l.isVariant then [l, l.base] else [l] := by
  rcases l.parent?_eq with ⟨hvariant, hparent⟩ | ⟨hvariant, b, hparent, -⟩
  · rw [chain, hvariant, hparent]
    rfl
  · rw [chain, base, hvariant, hparent]
    rfl

/-- No locale is in a chain twice. -/
theorem nodup_chain (l : Locale) : l.chain.Nodup := by
  rw [chain_eq]
  cases hvariant : l.isVariant with
  | false => simp
  | true =>
    -- a variant is not its own base, which is no variant
    have hne : l ≠ l.base := by
      intro heq
      have hbase := l.isVariant_base
      rw [← heq, hvariant] at hbase
      exact absurd hbase (by simp)
    simpa using hne

/-! ### Canonical order -/

/-- The order in which locales come in does not matter. -/
theorem sort_congr {ls ls' : List Locale} (h : ls.Perm ls') : sort ls = sort ls' := by
  have htrans : ∀ a b c : Locale, before a b = true → before b c = true → before a c = true :=
    fun a b c hab hbc =>
      decide_eq_true (Nat.le_trans (of_decide_eq_true hab) (of_decide_eq_true hbc))
  have htotal : ∀ a b : Locale, (before a b || before b a) = true := by
    intro a b
    rw [Bool.or_eq_true, before, before, decide_eq_true_eq, decide_eq_true_eq]
    exact Nat.le_total a.position.val b.position.val
  have hanti : ∀ a b : Locale, before a b = true → before b a = true → a = b := by
    rintro ⟨i⟩ ⟨j⟩ hab hba
    have hij : i = j :=
      Fin.ext (Nat.le_antisymm (of_decide_eq_true hab) (of_decide_eq_true hba))
    rw [hij]
  have hperm : (sort ls).Perm (sort ls') :=
    (List.mergeSort_perm ls before).trans (h.trans (List.mergeSort_perm ls' before).symm)
  exact hperm.eq_of_pairwise (fun a b _ _ => hanti a b)
    (List.pairwise_mergeSort htrans htotal ls) (List.pairwise_mergeSort htrans htotal ls')

end Locale

end Phrasebook

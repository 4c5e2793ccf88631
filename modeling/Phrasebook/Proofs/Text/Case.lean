import Phrasebook.Text.Casing
import Phrasebook.Text.Units

namespace Phrasebook.Text

/-!
# The case of plain letters

ASCII is cased character by character.  Beyond it a text can have another length in lower case, but
not where the lower case is plain.

* `IsPlain`: a small letter or a digit.
* `lower_of_ascii`, `upper_of_ascii`: the case of a text in ASCII.
* `lower_map_toLower`, `upper_map_toLower`: a text in another letter case of ASCII has the same
  lower and upper case.
* `unitCount_lower`: a text is as long as its lower case, if that is plain.
-/

/-- A small letter of ASCII, or a digit. -/
def IsPlain (c : Char) : Prop :=
  ('a' ≤ c ∧ c ≤ 'z') ∨ ('0' ≤ c ∧ c ≤ '9')

instance (c : Char) : Decidable (IsPlain c) :=
  inferInstanceAs (Decidable (_ ∨ _))

/-- The code points of such characters are those of ASCII from the digits on. -/
theorem IsPlain.toNat {c : Char} (h : IsPlain c) : 0x30 ≤ c.toNat ∧ c.toNat < 0x80 := by
  have hrange : (97 ≤ c.toNat ∧ c.toNat ≤ 122) ∨ (48 ≤ c.toNat ∧ c.toNat ≤ 57) := h
  omega

/-! ### ASCII -/

/-- What holds of the 128 characters of ASCII one by one. -/
theorem ascii_forall {p : Char → Prop} (h : ∀ n < 0x80, p (Char.ofNat n)) {c : Char}
    (hc : c.toNat < 0x80) : p c := by
  rw [← Char.ofNat_toNat c]
  exact h c.toNat hc

/-- Core changes the case of ASCII alone. -/
theorem toLower_of_not_ascii {c : Char} (h : ¬ c.toNat < 0x80) : c.toLower = c := by
  unfold Char.toLower
  apply dif_neg
  rintro ⟨-, hhigh⟩
  have hcapital : c.toNat ≤ 90 := hhigh
  omega

/-- A character is in ASCII if its small letter is. -/
theorem ascii_of_toLower {c : Char} (h : c.toLower.toNat < 0x80) : c.toNat < 0x80 := by
  by_cases hc : c.toNat < 0x80
  · exact hc
  · rwa [toLower_of_not_ascii hc] at h

/-- In ASCII the lower case of a text is that of its characters. -/
theorem lowerAfter_of_ascii {s : List Char} (h : ∀ c ∈ s, c.toNat < 0x80) (before : List Char) :
    lowerAfter before s = s.map Char.toLower := by
  induction s generalizing before with
  | nil => rfl
  | cons c s ih =>
    have hascii := h c List.mem_cons_self
    -- the sigma, which has a lower case for the end of a word, is beyond ASCII
    have hsigma : (c == 'Σ') = false := by
      rw [beq_eq_false_iff_ne]
      rintro rfl
      exact absurd hascii (by decide)
    have hrest := ih (fun d hd => h d (List.mem_cons_of_mem _ hd)) (c :: before)
    rw [lowerAfter, hsigma, Bool.false_and, Bool.false_and, if_neg Bool.false_ne_true, charLower,
      if_pos hascii, hrest]
    rfl

/-- The lower case of a text in ASCII. -/
theorem lower_of_ascii {s : List Char} (h : ∀ c ∈ s, c.toNat < 0x80) :
    lower s = s.map Char.toLower :=
  lowerAfter_of_ascii h []

/-- The upper case of a text in ASCII. -/
theorem upper_of_ascii {s : List Char} (h : ∀ c ∈ s, c.toNat < 0x80) :
    upper s = s.map Char.toUpper := by
  induction s with
  | nil => rfl
  | cons c s ih =>
    have hrest : s.flatMap charUpper = s.map Char.toUpper :=
      ih fun d hd => h d (List.mem_cons_of_mem _ hd)
    rw [upper, List.flatMap_cons, charUpper, if_pos (h c List.mem_cons_self), hrest]
    rfl

/-! ### Small letters in place of capitals -/

/-- Small letters differ from the characters themselves for the 26 capitals only. -/
theorem toLower_cases (c : Char) :
    c.toLower = c ∨ ∃ k < 26, c = Char.ofNat (k + 65) ∧ c.toLower = Char.ofNat (k + 97) := by
  by_cases hc : c.toNat < 0x80
  · exact ascii_forall (p := fun c => c.toLower = c ∨
      ∃ k < 26, c = Char.ofNat (k + 65) ∧ c.toLower = Char.ofNat (k + 97)) (by decide +kernel) hc
  · exact Or.inl (toLower_of_not_ascii hc)

/-- What is one for each capital and its small letter is one for every character and its small
    letter. -/
theorem toLower_congr {α : Type} {f : Char → α}
    (h : ∀ k < 26, f (Char.ofNat (k + 97)) = f (Char.ofNat (k + 65))) (c : Char) :
    f c.toLower = f c := by
  rcases toLower_cases c with hc | ⟨k, hk, hc, hlower⟩
  · rw [hc]
  · rw [hlower, hc, h k hk]

/-- No letter of ASCII is passed over in the search for a letter with case.  The table is gone
    through once, not once for each letter. -/
theorem not_ignorable_of_letter {n : Nat} (h : (65 ≤ n ∧ n ≤ 90) ∨ (97 ≤ n ∧ n ≤ 122)) :
    inRanges CaseTable.ignorable n = false := by
  have htable : ∀ r ∈ CaseTable.ignorable, r.2 < 65 ∨ (90 < r.1 ∧ r.2 < 97) ∨ 122 < r.1 := by
    decide +kernel
  rw [inRanges, List.any_eq_false]
  intro r hr
  have hrange := htable r hr
  simp only [Bool.and_eq_true, decide_eq_true_eq]
  omega

/-- A letter in lower case is passed over just where the letter is. -/
theorem ignorable_toLower (c : Char) :
    inRanges CaseTable.ignorable c.toLower.toNat = inRanges CaseTable.ignorable c.toNat := by
  refine toLower_congr (f := fun c => inRanges CaseTable.ignorable c.toNat) (fun k hk => ?_) c
  have hcodes : ∀ k < 26, (Char.ofNat (k + 97)).toNat = k + 97 ∧
      (Char.ofNat (k + 65)).toNat = k + 65 := by decide +kernel
  obtain ⟨hsmall, hcapital⟩ := hcodes k hk
  rw [hsmall, hcapital, not_ignorable_of_letter (by omega), not_ignorable_of_letter (by omega)]

/-- A letter with case comes next in lower case just where one does in the text. -/
theorem nextIsCased_map_toLower (s : List Char) :
    nextIsCased (s.map Char.toLower) = nextIsCased s := by
  have hignorable : (fun c : Char => inRanges CaseTable.ignorable c.toNat) ∘ Char.toLower
      = fun c => inRanges CaseTable.ignorable c.toNat := funext ignorable_toLower
  unfold nextIsCased
  rw [List.dropWhile_map, hignorable]
  cases s.dropWhile fun c => inRanges CaseTable.ignorable c.toNat with
  | nil => rfl
  | cons c _ =>
    exact toLower_congr (f := fun c => inRanges CaseTable.cased c.toNat) (by decide +kernel) c

/-- The lower case of a text is that of the text in ASCII lower case. -/
theorem lowerAfter_map_toLower (before s : List Char) :
    lowerAfter (before.map Char.toLower) (s.map Char.toLower) = lowerAfter before s := by
  induction s generalizing before with
  | nil => rfl
  | cons c s ih =>
    have hsigma : (c.toLower == 'Σ') = (c == 'Σ') :=
      toLower_congr (f := fun c => c == 'Σ') (by decide +kernel) c
    have hletter : charLower c.toLower = charLower c :=
      toLower_congr (f := charLower) (by decide +kernel) c
    have hrest := ih (c :: before)
    rw [List.map_cons] at hrest ⊢
    rw [lowerAfter, lowerAfter, hsigma, nextIsCased_map_toLower, nextIsCased_map_toLower, hletter,
      hrest]

/-- The letter case of ASCII in a text is no matter for its lower case, whatever stands around. -/
theorem lower_map_toLower (s : List Char) : lower (s.map Char.toLower) = lower s :=
  lowerAfter_map_toLower [] s

/-- Nor is it for its upper case. -/
theorem upper_map_toLower (s : List Char) : upper (s.map Char.toLower) = upper s := by
  rw [upper, List.flatMap_map, upper]
  exact congrArg s.flatMap (funext (toLower_congr (f := charUpper) (by decide +kernel)))

/-! ### Lengths -/

/-- A character of the first plane is one unit. -/
theorem length_charUnits {c : Char} (h : c.toNat < 0x10000) : (charUnits c).length = 1 := by
  unfold charUnits
  simp only [if_pos h]
  rfl

/-- A plain character is made from one code point, which must be a plain one. -/
theorem eq_of_isPlain_ofNat {n : Nat} (h : IsPlain (Char.ofNat n)) : (Char.ofNat n).toNat = n := by
  by_cases hvalid : n.isValidChar
  · exact congrArg Char.toNat (dif_pos hvalid)
  · have hzero : (Char.ofNat n).toNat = 0 := congrArg Char.toNat (dif_neg hvalid)
    have hlow := h.toNat.1
    omega

/-- No run of the table leads from beyond the basic plane into ASCII. -/
theorem basic_or_beyond : ∀ r ∈ CaseTable.lower,
    r.last < 0x10000 ∨ (0x80 : Int) ≤ r.first + r.shift := by
  decide +kernel

/-- One character of the basic plane is all that becomes plain letters and digits. -/
theorem basic_of_plain_mapChar {c : Char}
    (h : ∀ d ∈ mapChar CaseTable.lower CaseTable.lowerLong c, IsPlain d) :
    c.toNat < 0x10000 ∧ (mapChar CaseTable.lower CaseTable.lowerLong c).length = 1 := by
  unfold mapChar at h ⊢
  split at h
  · next ns hlookup =>
    -- the one character that becomes several keeps a dot of its own
    have hlong : ∀ e ∈ CaseTable.lowerLong, ∃ n ∈ e.2, ¬ IsPlain (Char.ofNat n) := by
      decide +kernel
    obtain ⟨before, after, htable, -⟩ := List.lookup_eq_some_iff.1 hlookup
    obtain ⟨n, hn, hnot⟩ := hlong (c.toNat, ns) (by rw [htable]; simp)
    exact absurd (h _ (List.mem_map_of_mem hn)) hnot
  · split at h
    · next r hfind =>
      have hplain := h _ (List.mem_singleton_self _)
      have hto := eq_of_isPlain_ofNat hplain
      have hlow := hplain.toNat.2
      rw [hto] at hlow
      have hholds := List.find?_some hfind
      simp only [CaseTable.Run.holds, Bool.and_eq_true, decide_eq_true_eq] at hholds
      refine ⟨?_, rfl⟩
      rcases basic_or_beyond r (List.mem_of_find?_eq_some hfind) with hbasic | hbeyond
      · omega
      · omega
    · exact ⟨by have := (h c (List.mem_singleton_self c)).toNat; omega, rfl⟩

/-- Where lower case is plain, it is as many units as the character. -/
theorem length_units_charLower {c : Char} (h : ∀ d ∈ charLower c, IsPlain d) :
    (units (charLower c)).length = (charUnits c).length := by
  obtain ⟨hbasic, hone⟩ : c.toNat < 0x10000 ∧ (charLower c).length = 1 := by
    unfold charLower at h ⊢
    split
    · exact ⟨by omega, rfl⟩
    · next hascii =>
      rw [if_neg hascii] at h
      exact basic_of_plain_mapChar h
  obtain ⟨d, hd⟩ := List.length_eq_one_iff.1 hone
  have hplain : d.toNat < 0x80 := (h d (by rw [hd]; exact List.mem_singleton_self d)).toNat.2
  rw [hd, units_cons, units_nil, List.append_nil, length_charUnits hbasic,
    length_charUnits (by omega)]

/-- A text is as long as its lower case, if that is plain. -/
theorem unitCount_lower {s : List Char} (h : ∀ c ∈ lower s, IsPlain c) :
    unitCount (lower s) = unitCount s := by
  have hafter : ∀ (s before : List Char), (∀ c ∈ lowerAfter before s, IsPlain c) →
      unitCount (lowerAfter before s) = unitCount s := by
    intro s
    induction s with
    | nil => exact fun _ _ => rfl
    | cons c s ih =>
      intro before hplain
      rw [lowerAfter] at hplain ⊢
      have hrest := ih (c :: before) fun d hd => hplain d (List.mem_append_right _ hd)
      unfold unitCount at hrest ⊢
      split
      · next hsigma =>
        -- no sigma is plain
        rw [if_pos hsigma] at hplain
        exact absurd (hplain 'ς' (by simp)) (by decide)
      · next hsigma =>
        rw [if_neg hsigma] at hplain
        rw [units_append, List.length_append, hrest, units_cons, List.length_append,
          length_units_charLower fun d hd => hplain d (List.mem_append_left _ hd)]
  exact hafter s [] h

end Phrasebook.Text

import Phrasebook.Formatter
import Phrasebook.Proofs.Number.IntegerText
import Phrasebook.Proofs.Plural.Bars
import Phrasebook.Proofs.Rows

namespace Phrasebook

/-!
# The grammar of templates

Which texts are templates, said apart from the way in which they are read.

* `Plural.BoundText`, `Plural.GuardText`, `Plural.BranchText`: the texts of bounds, guards and
  branches, each with what it says.
* `Plural.boundOf?_eq_some_iff`, `Plural.readGuard_eq_ok_iff`, `Plural.readBranch_eq_ok_iff`: what
  is read is what the grammar says.
* `Plural.boundText_iff_toSafeInt?`: a bound might as well be rounded to a number first.
* `Plural.Blames`: the fault of a template that names one of its pieces.
* `Template.parse_grammar`: a template is read if and only if all its pieces but the last are
  branches, and else the first one that is none is named.
-/

namespace Plural

/-! ### The grammar -/

/-- A text that states a bound of a guard: an integer of at most 53 bits. -/
def BoundText (s : List Char) (n : Int) : Prop :=
  ∃ d : Number.IntegerText, d.text = s ∧ d.value = n ∧ n.natAbs ≤ Number.Double.maxSafe

/-- A text that states a guard, without its braces. -/
inductive GuardText : List Char → Guard Int → Prop
  /-- bounds with commas between them -/
  | oneOf {ss : List (List Char)} {ns : List Int} (hne : ss ≠ [])
      (hbounds : List.Forall₂ BoundText ss ns) : GuardText ([','].intercalate ss) (.oneOf ns)
  /-- two bounds with two dots between them -/
  | between {s t : List Char} {low high : Int} (hlow : BoundText s low)
      (hhigh : BoundText t high) : GuardText (s ++ '.' :: '.' :: t) (.between low high)
  /-- a bound and two dots, and nothing after them -/
  | atLeast {s : List Char} {low : Int} (hlow : BoundText s low) :
      GuardText (s ++ ['.', '.']) (.atLeast low)
  /-- two dots and a bound, and nothing before them -/
  | atMost {s : List Char} {high : Int} (hhigh : BoundText s high) :
      GuardText ('.' :: '.' :: s) (.atMost high)

/-- A text that states a branch: a guard in braces, and then the text of the branch. -/
inductive BranchText : List Char → Branch → Prop
  | intro {body text : List Char} {g : Guard Int} (hbody : '}' ∉ body) (hguard : GuardText body g) :
      BranchText ('{' :: (body ++ '}' :: text)) ⟨g, String.ofList (unescape (Text.trim text))⟩

/-! ### Bounds -/

/-- Digits behind a sign are read to their value with that sign. -/
theorem signedDigits?_eq {s digits : List Char} {negative : Bool}
    (hsplit : Number.splitSign s = (negative, digits)) :
    signedDigits? s
      = (Number.valueOf? 10 digits).map fun m : Nat => if negative then -(m : Int) else m := by
  rw [signedDigits?, hsplit]
  show Option.map _ (do
    let m ← Number.valueOf? 10 digits
    pure (m : Int)) = _
  cases Number.valueOf? 10 digits <;> rfl

/-- What is read as an integer is what writes one. -/
theorem signedDigits?_trim_eq_some_iff {s : List Char} {n : Int} :
    signedDigits? (Text.trim s) = some n ↔
      ∃ d : Number.IntegerText, d.text = s ∧ d.value = n := by
  constructor
  · intro h
    obtain ⟨negative, digits, hsplit⟩ : ∃ negative digits,
        Number.splitSign (Text.trim s) = (negative, digits) := ⟨_, _, rfl⟩
    rw [signedDigits?_eq hsplit] at h
    obtain ⟨m, hm, hn⟩ := Option.map_eq_some_iff.1 h
    obtain ⟨hne, hall, rfl⟩ := Number.valueOf?_ten_eq_some_iff.1 hm
    obtain ⟨d, hs, hsign, hd⟩ := Number.IntegerText.exists_of_splitSign hsplit hall hne
    refine ⟨d, hs, ?_⟩
    rw [Number.IntegerText.value, hsign, hd]
    exact hn
  · rintro ⟨d, rfl, rfl⟩
    have hvalue : Number.valueOf? 10 d.digits = some (Nat.ofDigitChars 10 d.digits 0) :=
      Number.valueOf?_ten_eq_some_iff.2 ⟨d.digits_ne_nil, d.isDigit, rfl⟩
    rw [signedDigits?_eq d.splitSign_trim_text, hvalue]
    rfl

/-- What is read as a bound is what states one. -/
theorem boundOf?_eq_some_iff {s : List Char} {n : Int} : boundOf? s = some n ↔ BoundText s n := by
  rw [boundOf?, Option.filter_eq_some_iff, signedDigits?_trim_eq_some_iff, decide_eq_true_eq]
  constructor
  · rintro ⟨⟨d, hs, hn⟩, hsafe⟩
    exact ⟨d, hs, hn, hsafe⟩
  · rintro ⟨d, hs, hn, hsafe⟩
    exact ⟨⟨d, hs, hn⟩, hsafe⟩

/-- A bound may be read as a number of double precision: of the integers of at most 53 bits rounding
    changes none, and makes none of the others. -/
theorem boundText_iff_toSafeInt? {s : List Char} {n : Int} :
    BoundText s n ↔ (∃ d : Number.IntegerText, d.text = s) ∧
      (Number.Double.ofText s).toSafeInt? = some n := by
  constructor
  · rintro ⟨d, rfl, rfl, hsafe⟩
    exact ⟨⟨d, rfl⟩, by rw [d.toSafeInt?_ofText, if_pos hsafe]⟩
  · rintro ⟨⟨d, rfl⟩, hread⟩
    -- an integer that is too long has no safe number
    rw [d.toSafeInt?_ofText] at hread
    split at hread
    · next hsafe =>
      obtain rfl := Option.some.inj hread
      exact ⟨d, rfl, rfl, hsafe⟩
    · exact absurd hread (by simp)

/-- A bound is read just where it is the text of one. -/
theorem readBound_eq_ok_iff {place : GuardPlace} {s : List Char} {n : Int} :
    readBound place s = .ok n ↔ BoundText s n := by
  rw [← boundOf?_eq_some_iff, readBound]
  cases boundOf? s <;> simp

/-- A bound is made of blanks, a sign and digits. -/
theorem BoundText.not_mem {s : List Char} {n : Int} (h : BoundText s n) {c : Char}
    (hblank : Text.isBlank c = false) (hsign : c ≠ '+' ∧ c ≠ '-') (hdigit : c.isDigit = false) :
    c ∉ s := by
  obtain ⟨d, rfl, -, -⟩ := h
  rw [Number.IntegerText.text, List.mem_append, List.mem_append, List.mem_append]
  rintro ((hc | hc | hc) | hc)
  · exact absurd (d.blank_before c hc) (by simp [hblank])
  · rcases d.isSign with hs | hs | hs <;> rw [hs] at hc <;> simp_all
  · exact absurd (d.isDigit c hc) (by simp [hdigit])
  · exact absurd (d.blank_after c hc) (by simp [hblank])

/-- The text of a bound is not empty. -/
theorem BoundText.ne_nil {s : List Char} {n : Int} (h : BoundText s n) : s ≠ [] := by
  obtain ⟨d, rfl, -, -⟩ := h
  simp [Number.IntegerText.text, d.digits_ne_nil]

/-! ### Guards -/

/-- What is cut at its first pair of dots is made up of the two parts. -/
theorem cutDots?_eq {s low high : List Char} (h : cutDots? s = some (low, high)) :
    s = low ++ '.' :: '.' :: high := by
  fun_induction cutDots? s generalizing low with
  | case1 => simp at h
  | case2 s =>
    obtain ⟨rfl, rfl⟩ : [] = low ∧ s = high := by simpa using h
    rfl
  | case3 c s _ ih =>
    obtain ⟨⟨low', high'⟩, hp, he⟩ := Option.map_eq_some_iff.1 h
    obtain ⟨rfl, rfl⟩ : c :: low' = low ∧ high' = high := by simpa using he
    rw [ih hp]
    rfl

/-- Without a dot there is no pair of dots. -/
theorem cutDots?_of_not_mem {s : List Char} (h : '.' ∉ s) : cutDots? s = none := by
  induction s with
  | nil => rfl
  | cons c s ih =>
    obtain ⟨hc, hs⟩ : '.' ≠ c ∧ '.' ∉ s := by simpa using h
    have hcons : cutDots? (c :: s) = (cutDots? s).map fun p => (c :: p.1, p.2) := by
      rw [cutDots?]
      intro t he
      exact absurd he.symm hc
    rw [hcons, ih hs]
    rfl

/-- A text is cut at its first pair of dots. -/
theorem cutDots?_append {s : List Char} (h : '.' ∉ s) (t : List Char) :
    cutDots? (s ++ '.' :: '.' :: t) = some (s, t) := by
  induction s with
  | nil => rfl
  | cons c s ih =>
    obtain ⟨hc, hs⟩ : '.' ≠ c ∧ '.' ∉ s := by simpa using h
    have hcons : cutDots? (c :: (s ++ '.' :: '.' :: t))
        = (cutDots? (s ++ '.' :: '.' :: t)).map fun p => (c :: p.1, p.2) := by
      rw [cutDots?]
      intro t he
      exact absurd he.symm hc
    rw [List.cons_append, hcons, ih hs]
    rfl

/-- A text that is read as a guard states that guard. -/
theorem guardText_of_readGuard {body : List Char} {g : Guard Int} (h : readGuard body = .ok g) :
    GuardText body g := by
  unfold readGuard at h
  split at h
  · -- without a pair of dots the body is a list, and its bounds stand between the commas
    obtain ⟨ns, hns, hg⟩ := bind_eq_ok_iff.1 h
    obtain rfl : Guard.oneOf ns = g := Except.ok.inj hg
    have hjoin : [','].intercalate (body.splitOnP (· == ',')) = body := by
      rw [← List.splitOn_eq_splitOnP]
      exact List.intercalate_splitOn ','
    rw [← hjoin]
    refine .oneOf (List.splitOnP_ne_nil _ _) ?_
    exact (mapM_eq_ok_iff.1 hns).imp fun s n => readBound_eq_ok_iff.1
  -- with dots the body is what stands around them
  · next high hcut =>
    obtain ⟨n, hn, hg⟩ := bind_eq_ok_iff.1 h
    obtain rfl : Guard.atMost n = g := Except.ok.inj hg
    rw [cutDots?_eq hcut]
    exact .atMost (readBound_eq_ok_iff.1 hn)
  · next low _ hcut =>
    obtain ⟨n, hn, hg⟩ := bind_eq_ok_iff.1 h
    obtain rfl : Guard.atLeast n = g := Except.ok.inj hg
    rw [cutDots?_eq hcut]
    exact .atLeast (readBound_eq_ok_iff.1 hn)
  · next low high _ _ hcut =>
    obtain ⟨n, hn, h⟩ := bind_eq_ok_iff.1 h
    obtain ⟨m, hm, hg⟩ := bind_eq_ok_iff.1 h
    obtain rfl : Guard.between n m = g := Except.ok.inj hg
    rw [cutDots?_eq hcut]
    exact .between (readBound_eq_ok_iff.1 hn) (readBound_eq_ok_iff.1 hm)

/-- The text of a bound has no dot. -/
theorem BoundText.dot_not_mem {s : List Char} {n : Int} (h : BoundText s n) : '.' ∉ s :=
  h.not_mem (by decide) (by decide) (by decide)

/-- A text that states a guard is read as that guard. -/
theorem readGuard_of_guardText {body : List Char} {g : Guard Int} (h : GuardText body g) :
    readGuard body = .ok g := by
  cases h with
  | oneOf hne hbounds =>
    next ss ns =>
    have hnone : ∀ s ∈ ss, ∀ c : Char, c = ',' ∨ c = '.' → c ∉ s := by
      intro s hs c hc
      obtain ⟨n, -, hn⟩ := (exists_of_forall₂ hbounds).1 s hs
      rcases hc with rfl | rfl
      · exact hn.not_mem (by decide) (by decide) (by decide)
      · exact hn.dot_not_mem
    have hdots : '.' ∉ [','].intercalate ss := by
      intro hmem
      rcases mem_intercalate hmem with hmem | ⟨s, hs, hmem⟩
      · exact absurd hmem (by decide)
      · exact hnone s hs '.' (Or.inr rfl) hmem
    -- so the body is a list, and it is cut at the commas that joined it
    have hread : ss.mapM (readBound .listed) = .ok ns :=
      mapM_eq_ok_iff.2 (hbounds.imp fun s n => readBound_eq_ok_iff.2)
    rw [readGuard, cutDots?_of_not_mem hdots]
    show (do
      let values ← (([','].intercalate ss).splitOnP (· == ',')).mapM (readBound .listed)
      return Guard.oneOf values) = _
    rw [← List.splitOn_eq_splitOnP,
      List.splitOn_intercalate ',' (fun s hs => hnone s hs ',' (Or.inl rfl)) hne, hread]
    rfl
  | between hlow hhigh =>
    next s t low high =>
    obtain ⟨c, s, rfl⟩ := List.exists_cons_of_ne_nil hlow.ne_nil
    obtain ⟨d, t, rfl⟩ := List.exists_cons_of_ne_nil hhigh.ne_nil
    rw [readGuard, cutDots?_append hlow.dot_not_mem]
    show (do
      let low ← readBound .low (c :: s)
      let high ← readBound .high (d :: t)
      return Guard.between low high) = _
    rw [readBound_eq_ok_iff.2 hlow, readBound_eq_ok_iff.2 hhigh]
    rfl
  | atLeast hlow =>
    next s low =>
    obtain ⟨c, s, rfl⟩ := List.exists_cons_of_ne_nil hlow.ne_nil
    rw [readGuard, cutDots?_append hlow.dot_not_mem]
    show (do
      let low ← readBound .lowOnly (c :: s)
      return Guard.atLeast low) = _
    rw [readBound_eq_ok_iff.2 hlow]
    rfl
  | atMost hhigh =>
    next s high =>
    show (do
      let high ← readBound .highOnly s
      return Guard.atMost high) = _
    rw [readBound_eq_ok_iff.2 hhigh]
    rfl

/-- What is read as a guard is what states one. -/
theorem readGuard_eq_ok_iff {body : List Char} {g : Guard Int} :
    readGuard body = .ok g ↔ GuardText body g :=
  ⟨guardText_of_readGuard, readGuard_of_guardText⟩

/-- Besides what its bounds are made of, a guard has but commas and dots. -/
theorem GuardText.not_mem {body : List Char} {g : Guard Int} (h : GuardText body g) {c : Char}
    (hblank : Text.isBlank c = false) (hsign : c ≠ '+' ∧ c ≠ '-') (hdigit : c.isDigit = false)
    (hseparator : c ≠ ',' ∧ c ≠ '.') : c ∉ body := by
  have hbound : ∀ {s n}, BoundText s n → c ∉ s := fun hs => hs.not_mem hblank hsign hdigit
  cases h with
  | oneOf _ hbounds =>
    intro hmem
    rcases mem_intercalate hmem with hmem | ⟨s, hs, hmem⟩
    · exact hseparator.1 (List.mem_singleton.1 hmem)
    · obtain ⟨n, -, hn⟩ := (exists_of_forall₂ hbounds).1 s hs
      exact hbound hn hmem
  | between hlow hhigh => simp [hbound hlow, hbound hhigh, hseparator.2]
  | atLeast hlow => simp [hbound hlow, hseparator.2]
  | atMost hhigh => simp [hbound hhigh, hseparator.2]

/-- Every bound of a guard that is stated is an integer of at most 53 bits. -/
theorem GuardText.exact {body : List Char} {g : Guard Int} (h : GuardText body g) :
    ∀ n ∈ g.bounds, n.natAbs ≤ Number.Double.maxSafe := by
  have hexact : ∀ {s n}, BoundText s n → n.natAbs ≤ Number.Double.maxSafe :=
    fun ⟨_, _, _, hn⟩ => hn
  intro n hn
  cases h with
  | oneOf _ hbounds =>
    obtain ⟨s, -, hs⟩ := (exists_of_forall₂ hbounds).2 n hn
    exact hexact hs
  | between hlow hhigh =>
    rcases List.mem_cons.1 hn with rfl | hn
    · exact hexact hlow
    · exact List.mem_singleton.1 hn ▸ hexact hhigh
  | atLeast hlow => exact List.mem_singleton.1 hn ▸ hexact hlow
  | atMost hhigh => exact List.mem_singleton.1 hn ▸ hexact hhigh

/-! ### Branches -/

/-- The bounds of a branch are safe integers. -/
theorem BranchText.exact {s : List Char} {b : Branch} (h : BranchText s b) :
    ∀ n ∈ b.guard.bounds, n.natAbs ≤ Number.Double.maxSafe := by
  obtain ⟨-, hguard⟩ := h
  exact hguard.exact

/-- The guard of a branch ends at the first closing brace. -/
theorem readBranch_append {g : List Char} (hg : '}' ∉ g) (rest : List Char) :
    readBranch ('{' :: (g ++ '}' :: rest)) = (do
      let guard ← readGuard g
      return { guard := guard, text := String.ofList (unescape (Text.trim rest)) }) := by
  have hne : ∀ c ∈ g, (c != '}') = true := by
    intro c hc
    rw [bne_iff_ne]
    rintro rfl
    exact hg hc
  have hdrop : (g ++ '}' :: rest).dropWhile (· != '}') = '}' :: rest := by
    rw [List.dropWhile_append_of_pos hne]
    rfl
  have htake : (g ++ '}' :: rest).takeWhile (· != '}') = g := by
    rw [List.takeWhile_append_of_pos hne]
    exact List.append_nil g
  simp only [readBranch, hdrop, htake]

/-- What is read as a branch is what states one. -/
theorem readBranch_eq_ok_iff {s : List Char} {b : Branch} :
    readBranch s = .ok b ↔ BranchText s b := by
  constructor
  · intro h
    unfold readBranch at h
    split at h
    · next t =>
      split at h
      · exact absurd h (by simp)
      · next c text hdrop =>
        have ht : t.takeWhile (· != '}') ++ c :: text = t := by
          rw [← hdrop]
          exact List.takeWhile_append_dropWhile
        -- the guard ends at the first closing brace
        have hc : c = '}' := by
          have hnot := List.head?_dropWhile_not (· != '}') t
          rw [hdrop] at hnot
          simpa using hnot
        have hbody : '}' ∉ t.takeWhile (· != '}') := by
          intro hmem
          exact absurd (List.mem_takeWhile_imp hmem) (by simp)
        obtain ⟨g, hguard, hb⟩ := bind_eq_ok_iff.1 h
        obtain rfl := Except.ok.inj hb
        rw [← ht, hc]
        exact .intro hbody (readGuard_eq_ok_iff.1 hguard)
    · exact absurd h (by simp)
  · rintro ⟨hbody, hguard⟩
    rw [readBranch_append hbody, readGuard_eq_ok_iff.2 hguard]
    rfl

/-- A piece is read just where it is the text of a branch. -/
theorem readPiece_eq_ok_iff {s : List Char} {b : Branch} :
    readPiece s = .ok b ↔ BranchText s b := by
  rw [← readBranch_eq_ok_iff, readPiece]
  cases readBranch s <;> simp

/-- The fault of a piece names that piece. -/
theorem branch_of_readPiece {s : List Char} {f : TemplateFault} (h : readPiece s = .error f) :
    f.branch = String.ofList s := by
  unfold readPiece at h
  split at h
  · exact absurd h (by simp)
  · rw [← Except.error.inj h]

/-! ### Templates -/

/-- The last of several pieces is the fallback, and the others are branches. -/
theorem readPieces_append (whole : List Char) {before : List (List Char)} (h : before ≠ [])
    (last : List Char) :
    readPieces whole (before ++ [last]) = (do
      let branches ← (before.map Text.trim).mapM readPiece
      return .plural branches (String.ofList (unescape (Text.trim last)))) := by
  obtain ⟨p, ps, hrev⟩ := List.exists_cons_of_ne_nil (mt List.reverse_eq_nil_iff.1 h)
  have hbefore : (p :: ps).reverse = before := by rw [← hrev, List.reverse_reverse]
  rw [readPieces, List.reverse_append, hrev, List.reverse_singleton, List.singleton_append]
  simp only [hbefore]

/-- The error of a template that names one of its pieces, without the blanks around it. -/
structure Blames (source : String) (piece : List Char) (e : Fault) : Prop where
  name : e.name = "TemplateError"
  code : e.code = "INVALID_TEMPLATE"
  details : e.details = some [("template", .text source)]
  message : ∃ what why, e.message = "Malformed template: "
    ++ ("failed to parse " ++ what ++ " for '" ++ String.ofList (Text.trim piece) ++ "', " ++ why)

/-- The words for the fault of a branch have that branch in them. -/
theorem inWords_eq (branch : String) (f : BranchFault) : ∃ what why,
    f.inWords branch = "failed to parse " ++ what ++ " for '" ++ branch ++ "', " ++ why := by
  have hguard : "failed to parse guard for '" = "failed to parse " ++ "guard" ++ " for '" := by
    decide
  cases f with
  | unguarded =>
    have hopen : "', expected '\x7b'" = "', " ++ "expected '\x7b'" := by decide
    refine ⟨"guard", "expected '\x7b'", ?_⟩
    show "failed to parse guard for '" ++ branch ++ "', expected '\x7b'" = _
    rw [hguard, hopen, ← String.append_assoc]
  | unclosed =>
    have hclose : "', expected '\x7d' but branch was terminated"
        = "', " ++ "expected '\x7d' but branch was terminated" := by decide
    refine ⟨"guard", "expected '\x7d' but branch was terminated", ?_⟩
    show "failed to parse guard for '" ++ branch
      ++ "', expected '\x7d' but branch was terminated" = _
    rw [hguard, hclose, ← String.append_assoc]
  | notInteger place value =>
    have hquote : "', '" = "', " ++ "'" := by decide
    refine ⟨place.inWords, "'" ++ value ++ "' is not an integer", ?_⟩
    show "failed to parse " ++ place.inWords ++ " for '" ++ branch ++ "', '" ++ value
      ++ "' is not an integer" = _
    rw [hquote]
    simp only [String.append_assoc]

/-- The fault of a piece names the piece. -/
theorem blames_of_readPiece (source : String) {piece : List Char} {f : TemplateFault}
    (h : readPiece (Text.trim piece) = .error f) :
    Blames source piece (.ofTemplate source f) where
  name := rfl
  code := rfl
  details := rfl
  message := by
    obtain ⟨what, why, hwords⟩ := inWords_eq f.branch f.fault
    refine ⟨what, why, ?_⟩
    show "Malformed template: " ++ f.fault.inWords f.branch = _
    rw [hwords, branch_of_readPiece h]

/-- There is a last piece. -/
theorem exists_pieces (s : List Char) : ∃ before last, pieces s = before ++ [last] := by
  rcases List.eq_nil_or_concat (pieces s) with hnil | ⟨before, last, hpieces⟩
  · exact absurd hnil (cutAfter_ne_nil 0 _)
  · exact ⟨before, last, by rw [hpieces, List.concat_eq_append]⟩

end Plural

namespace Template

open Plural (BoundText BranchText Blames)

/-- A template of one piece is that text, whatever it is. -/
theorem parse_of_piece {source : String} {last : List Char}
    (hpieces : Plural.pieces source.toList = [last]) :
    parse source = .ok (.simple (String.ofList (Plural.unescape source.toList))) := by
  rw [parse, hpieces]
  rfl

/-- A template of several pieces is read piece by piece. -/
theorem parse_of_pieces {source : String} {before : List (List Char)} {last : List Char}
    (hpieces : Plural.pieces source.toList = before ++ [last]) (hbefore : before ≠ []) :
    parse source = (do
      let branches ← (before.map Text.trim).mapM Plural.readPiece
      return .plural branches (String.ofList (Plural.unescape (Text.trim last)))) := by
  rw [parse, hpieces, Plural.readPieces_append _ hbefore]

/-- A template of several pieces is read if and only if each but the last states a branch. -/
theorem parse_eq_ok_iff {source : String} {before : List (List Char)} {last : List Char}
    (hpieces : Plural.pieces source.toList = before ++ [last]) (hbefore : before ≠ [])
    (t : Template) :
    parse source = .ok t ↔ ∃ branches,
      List.Forall₂ (fun p b => BranchText (Text.trim p) b) before branches ∧
      t = .plural branches (String.ofList (Plural.unescape (Text.trim last))) := by
  rw [parse_of_pieces hpieces hbefore, bind_eq_ok_iff]
  refine exists_congr fun branches => and_congr ?_ ?_
  · rw [mapM_eq_ok_iff, List.forall₂_map_left_iff]
    simp only [Plural.readPiece_eq_ok_iff]
  · exact ⟨fun h => (Except.ok.inj h).symm, fun h => congrArg Except.ok h.symm⟩

/-- A template of one piece is that text, and never refused.  A template of several pieces is read
    if and only if each of them but the last states a branch; it then has these branches, and its
    last piece for a fallback.  If it is refused, the error has the whole template and names the
    first piece that states no branch.  It makes no difference for a bound if it is rounded to a
    number of double precision before it is tested. -/
theorem parse_grammar (source : String) :
    (∃ before last, Plural.pieces source.toList = before ++ [last] ∧
      (before = [] → parse source
        = .ok (.simple (String.ofList (Plural.unescape source.toList)))) ∧
      (before ≠ [] →
        (∀ t, parse source = .ok t ↔ ∃ branches,
          List.Forall₂ (fun p b => BranchText (Text.trim p) b) before branches ∧
          t = .plural branches (String.ofList (Plural.unescape (Text.trim last)))) ∧
        ((∃ t, parse source = .ok t) ↔ ∀ p ∈ before, ∃ b, BranchText (Text.trim p) b) ∧
        ∀ f, parse source = .error f →
          (∀ c, formatSource source c = .failed (.fault (.ofTemplate source f))) ∧
          ∃ good bad rest, before = good ++ bad :: rest ∧
            (∀ p ∈ good, ∃ b, BranchText (Text.trim p) b) ∧
            (¬ ∃ b, BranchText (Text.trim bad) b) ∧ Blames source bad (.ofTemplate source f))) ∧
    ∀ s n, BoundText s n ↔ (∃ d : Number.IntegerText, d.text = s) ∧
      (Number.Double.ofText s).toSafeInt? = some n := by
  refine ⟨?_, fun s n => Plural.boundText_iff_toSafeInt?⟩
  obtain ⟨before, last, hpieces⟩ := Plural.exists_pieces source.toList
  refine ⟨before, last, hpieces, fun hnone => ?_, fun hsome => ?_⟩
  · rw [hnone] at hpieces
    exact parse_of_piece hpieces
  have hparse := parse_of_pieces hpieces hsome
  refine ⟨parse_eq_ok_iff hpieces hsome, ?_, fun f hf => ⟨fun c => by rw [formatSource, hf], ?_⟩⟩
  · -- the fallback is read in any case, so the branches decide
    rw [hparse]
    constructor
    · rintro ⟨t, ht⟩ p hp
      obtain ⟨branches, hbranches, -⟩ := bind_eq_ok_iff.1 ht
      obtain ⟨b, hb⟩ := exists_mapM_eq_ok_iff.1 ⟨branches, hbranches⟩ _ (List.mem_map_of_mem hp)
      exact ⟨b, Plural.readPiece_eq_ok_iff.1 hb⟩
    · intro h
      have hread : ∀ p ∈ before.map Text.trim, ∃ b, Plural.readPiece p = .ok b := by
        intro p hp
        obtain ⟨q, hq, rfl⟩ := List.mem_map.1 hp
        obtain ⟨b, hb⟩ := h q hq
        exact ⟨b, Plural.readPiece_eq_ok_iff.2 hb⟩
      obtain ⟨branches, hbranches⟩ := exists_mapM_eq_ok_iff.2 hread
      exact ⟨_, bind_eq_ok_iff.2 ⟨branches, hbranches, rfl⟩⟩
  · rw [hparse, bind_eq_error_iff] at hf
    -- the fallback is never at fault
    obtain hf := hf.resolve_right fun ⟨_, _, h⟩ => absurd h (by simp [pure, Except.pure])
    obtain ⟨good, bad, rest, hmap, hgood, hbad⟩ := mapM_eq_error_iff.1 hf
    obtain ⟨good, tail, rfl, rfl, htail⟩ := List.map_eq_append_iff.1 hmap
    obtain ⟨bad, rest, rfl, rfl, rfl⟩ := List.map_eq_cons_iff.1 htail
    refine ⟨good, bad, rest, rfl, fun p hp => ?_, ?_, Plural.blames_of_readPiece source hbad⟩
    · obtain ⟨b, hb⟩ := hgood _ (List.mem_map_of_mem hp)
      exact ⟨b, Plural.readPiece_eq_ok_iff.1 hb⟩
    · rintro ⟨b, hb⟩
      rw [Plural.readPiece_eq_ok_iff.2 hb] at hbad
      exact absurd hbad (by simp)

/-- After the dots of a guard without an upper bound not even a blank may stand. -/
theorem parse_grammar_blankHigh :
    ∃ f, parse "\x7b1\x7d one | \x7b2.. \x7d two | many" = .error f ∧
      Blames "\x7b1\x7d one | \x7b2.. \x7d two | many" " \x7b2.. \x7d two ".toList
        (.ofTemplate "\x7b1\x7d one | \x7b2.. \x7d two | many" f) := by
  obtain ⟨⟨before, last, hpieces, -, hread⟩, -⟩ :=
    parse_grammar "\x7b1\x7d one | \x7b2.. \x7d two | many"
  have hcut : Plural.pieces "\x7b1\x7d one | \x7b2.. \x7d two | many".toList
      = ["\x7b1\x7d one ".toList, " \x7b2.. \x7d two ".toList] ++ [" many".toList] := by
    decide +kernel
  obtain ⟨rfl, -⟩ := List.append_inj' (hpieces.symm.trans hcut) rfl
  obtain ⟨-, hiff, herror⟩ := hread (by simp)
  have hone : ∃ b, BranchText (Text.trim "\x7b1\x7d one ".toList) b :=
    ⟨⟨.oneOf [1], "one"⟩, Plural.readPiece_eq_ok_iff.1 (by decide +kernel)⟩
  have htwo : ¬ ∃ b, BranchText (Text.trim " \x7b2.. \x7d two ".toList) b := by
    rintro ⟨b, hb⟩
    have hfault : Plural.readPiece (Text.trim " \x7b2.. \x7d two ".toList)
        = .error ⟨"\x7b2.. \x7d two", .notInteger .high ""⟩ := by decide +kernel
    rw [Plural.readPiece_eq_ok_iff.2 hb] at hfault
    exact absurd hfault (by simp)
  cases hparse : parse "\x7b1\x7d one | \x7b2.. \x7d two | many" with
  | ok t => exact absurd (hiff.1 ⟨t, hparse⟩ _ (by simp)) htwo
  | error f =>
    refine ⟨f, rfl, ?_⟩
    obtain ⟨-, good, bad, rest, hsplit, -, hbad, hblames⟩ := herror f hparse
    have hmem : bad ∈ ["\x7b1\x7d one ".toList, " \x7b2.. \x7d two ".toList] := by
      rw [hsplit]
      simp
    rcases List.mem_cons.1 hmem with rfl | hmem
    · exact absurd hone hbad
    · exact List.mem_singleton.1 hmem ▸ hblames

end Template

end Phrasebook

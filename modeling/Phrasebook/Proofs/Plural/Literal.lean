import Phrasebook.Proofs.Formatter
import Phrasebook.Proofs.Interpolation
import Phrasebook.Proofs.Plural.RoundTrip
import Phrasebook.Proofs.Plural.Runs

namespace Phrasebook

/-!
# Literal texts

Every brace and every bar of a text doubled makes a template, which should say the text and nothing
else.  It does so just where the bars of the text are level; elsewhere the template is refused.

* `Template.literal`: the template that writes a text out.
* `interpolate_doubled`: doubled braces are put out as single ones, whatever the context.
* `Plural.readPiece_of_literal`: no piece of such a template can be read as a branch.
* `Formatter.format_literal`: the template says the text if and only if the bars of the text are
  level.
* `Formatter.not_format_literal`: a bar with an accent on it.
-/

open Plural (doubled)

/-- Whether a character is a brace. -/
def isBrace (c : Char) : Bool :=
  c == '{' || c == '}'

/-- Whether a character is doubled where it stands for itself. -/
def isMarkup (c : Char) : Bool :=
  isBrace c || c == '|'

/-- The template that writes a text out: each brace and each bar doubled. -/
def Template.literal (text : String) : String :=
  String.ofList (doubled isMarkup text.toList)

/-! ### Braces -/

/-- The part that a character of a text makes when the braces of the text are doubled. -/
def Segment.ofChar (c : Char) : Segment :=
  if c = '{' then .openBrace else if c = '}' then .closeBrace else .plain c

/-- A text with doubled braces is cut character by character, whatever comes after it. -/
theorem segmentation_doubled_append (s : List Char) {t : List Char} {ps : List Segment}
    (h : Segmentation t ps) :
    Segmentation (doubled isBrace s ++ t) (s.map Segment.ofChar ++ ps) := by
  induction s with
  | nil => exact h
  | cons c s ih =>
    rw [Plural.doubled_cons, List.map_cons]
    by_cases hopen : c = '{'
    · subst hopen
      exact .openBrace ih
    · by_cases hclose : c = '}'
      · subst hclose
        exact .closeBrace ih
      · have hbrace : isBrace c = false := by simp [isBrace, hopen, hclose]
        have hpart : Segment.ofChar c = .plain c := by simp [Segment.ofChar, hopen, hclose]
        rw [hbrace, hpart]
        exact .plain hopen hclose ih

/-- A character is rendered as itself. -/
theorem render_ofChar (c : Context) (k : Nat) (ch : Char) :
    (Segment.ofChar ch).render c k = [ch] := by
  unfold Segment.ofChar
  split
  · next h => rw [h]; rfl
  · split
    · next h => rw [h]; rfl
    · rfl

/-- No character of a text takes a value. -/
theorem isSequential_ofChar (ch : Char) : (Segment.ofChar ch).isSequential = false := by
  unfold Segment.ofChar
  split
  · rfl
  · split <;> rfl

/-- Characters are rendered as they are, and what follows them as before. -/
theorem renderFrom_ofChar_append (c : Context) (k : Nat) (s : List Char) (ps : List Segment) :
    renderFrom c k (s.map Segment.ofChar ++ ps) = s ++ renderFrom c k ps := by
  induction s with
  | nil => rfl
  | cons ch s ih =>
    rw [List.map_cons, List.cons_append, renderFrom, render_ofChar, isSequential_ofChar,
      if_neg Bool.false_ne_true, ih]
    rfl

/-- Doubled braces are put out as single ones, whatever the context. -/
theorem interpolate_doubled (s : List Char) (c : Context) :
    interpolate (String.ofList (doubled isBrace s)) c = String.ofList s := by
  have hcut := (segmentation_doubled_append s .nil).eq_segments
  have hout := renderFrom_ofChar_append c 0 s []
  rw [List.append_nil, List.append_nil] at hcut
  rw [renderFrom, List.append_nil, List.append_nil] at hout
  rw [interpolate, String.toList_ofList, ← hcut, hout]

/-! ### Bars -/

namespace Plural

/-- Doubling the bars after the braces doubles both. -/
theorem escape_doubled (s : List Char) : escape (doubled isBrace s) = doubled isMarkup s := by
  induction s with
  | nil => rfl
  | cons c s ih =>
    have hhead : escape (if isBrace c then [c, c] else [c])
        = if isMarkup c then [c, c] else [c] := by
      by_cases hbrace : isBrace c = true
      · have hbar : c ≠ '|' := by rintro rfl; exact absurd hbrace (by decide)
        simp [isMarkup, hbrace, escape, hbar]
      · have hnot : isBrace c = false := by simpa using hbrace
        by_cases hbar : c = '|'
        · subst hbar
          rfl
        · simp [isMarkup, hnot, escape, hbar]
    rw [doubled_cons, doubled_cons, ← hhead, ← ih]
    exact List.flatMap_append

/-- Cutting takes away nothing but the bars at which it cuts. -/
theorem intercalate_cutAfter (run : Nat) (gs : List (List Char)) :
    bar.intercalate (cutAfter run gs) = gs.flatten := by
  have hcons : ∀ (p : List Char) {ps : List (List Char)}, ps ≠ [] →
      bar.intercalate (p :: ps) = p ++ bar ++ bar.intercalate ps := by
    intro p ps hps
    obtain ⟨q, qs, rfl⟩ := List.exists_cons_of_ne_nil hps
    exact List.intercalate_cons_cons
  have honFirst : ∀ (g : List Char) {ps : List (List Char)}, ps ≠ [] →
      bar.intercalate (onFirst g ps) = g ++ bar.intercalate ps := by
    intro g ps hps
    obtain ⟨q, qs, rfl⟩ := List.exists_cons_of_ne_nil hps
    cases qs with
    | nil => simp [onFirst]
    | cons q' qs => simp [onFirst, List.intercalate_cons_cons]
  induction gs generalizing run with
  | nil => rfl
  | cons g gs ih =>
    have hne : ∀ run, cutAfter run gs ≠ [] := fun run => cutAfter_ne_nil run gs
    rw [List.flatten_cons]
    by_cases hg : g = bar
    · subst hg
      rw [cutAfter_bar]
      split
      · rw [hcons [] (hne _), ih]
        rfl
      · rw [honFirst bar (hne _), ih]
    · rw [cutAfter_plain hg, honFirst g (hne _), ih]

/-! ### No branch -/

/-- A text that starts with two opening braces, or with none, is no branch. -/
theorem readBranch_of_literal {s : List Char} (h : ∀ t, s = '{' :: t → t.head? = some '{') :
    ∃ f, readBranch s = .error f := by
  unfold readBranch
  split
  · next t =>
    obtain ⟨w, rfl⟩ : ∃ w, t = '{' :: w := by
      cases t with
      | nil => exact absurd (h [] rfl) (by simp)
      | cons c w => exact ⟨w, by rw [Option.some.inj (h (c :: w) rfl)]⟩
    split
    · exact ⟨_, rfl⟩
    · -- the guard would have a brace in it
      cases hguard : readGuard (('{' :: w).takeWhile (· != '}')) with
      | error f => exact ⟨f, rfl⟩
      | ok g =>
        have hnot : '{' ∉ ('{' :: w).takeWhile (· != '}') :=
          (guardText_of_readGuard hguard).not_mem (by decide) (by decide) (by decide) (by decide)
        exact absurd List.mem_cons_self hnot
  · exact ⟨_, rfl⟩

/-- The first single brace in a text with doubled braces is followed by another one. -/
theorem head?_of_doubled {s before after : List Char} (hbefore : '{' ∉ before)
    (h : doubled isMarkup s = before ++ '{' :: after) : after.head? = some '{' := by
  induction s generalizing before with
  | nil => exact absurd h.symm (by simp)
  | cons c s ih =>
    rw [doubled_cons] at h
    split at h
    · cases before with
      | nil =>
        obtain ⟨rfl, hrest⟩ := List.cons.inj h
        rw [← hrest]
        rfl
      | cons d before =>
        obtain ⟨hd, htail⟩ : '{' ≠ d ∧ '{' ∉ before := by simpa using hbefore
        obtain ⟨rfl, hrest⟩ := List.cons.inj h
        -- the second of the two characters is no brace either
        cases before with
        | nil => exact absurd (List.cons.inj hrest).1.symm hd
        | cons d' before =>
          exact ih (fun hmem => htail (List.mem_cons_of_mem d' hmem)) (List.cons.inj hrest).2
    · next hc =>
      cases before with
      | nil =>
        obtain ⟨rfl, -⟩ := List.cons.inj h
        exact absurd rfl hc
      | cons d before =>
        exact ih (fun hmem => hbefore (List.mem_cons_of_mem d hmem)) (List.cons.inj h).2

/-- The first of several pieces of a text with doubled braces and bars is no branch. -/
theorem readPiece_of_literal {s piece rest : List Char}
    (h : doubled isMarkup s = piece ++ '|' :: rest) :
    ∃ f, readPiece (Text.trim piece) = .error f := by
  have hbrace : ∀ t, Text.trim piece = '{' :: t → t.head? = some '{' := by
    intro t ht
    obtain ⟨l, r, hl, hr, hpiece⟩ := Text.exists_surrounded piece
    have hblank : '{' ∉ l := fun hmem => absurd (hl _ hmem) (by decide)
    have hnext : (t ++ (r ++ '|' :: rest)).head? = some '{' := by
      refine head?_of_doubled (s := s) hblank ?_
      rw [h, hpiece, ht]
      simp
    cases t with
    | cons c t => exact hnext
    | nil =>
      -- neither a blank nor a bar is a brace
      cases r with
      | nil => exact absurd hnext (by simp)
      | cons c r =>
        have hc : c = '{' := by simpa using hnext
        exact absurd (hr c List.mem_cons_self) (by rw [hc]; decide)
  obtain ⟨f, hf⟩ := readBranch_of_literal hbrace
  exact ⟨_, by rw [readPiece, hf]⟩

/-- A text with doubled braces and bars that is cut cannot be read. -/
theorem readPieces_of_literal {s : List Char}
    (h : (pieces (doubled isMarkup s)).length ≠ 1) :
    ∃ f, readPieces (doubled isMarkup s) (pieces (doubled isMarkup s)) = .error f := by
  have hjoin : bar.intercalate (pieces (doubled isMarkup s)) = doubled isMarkup s := by
    rw [pieces, cut, intercalate_cutAfter, Text.flatten_clusters]
  -- there are a first piece, a last one, and perhaps more between them
  obtain ⟨first, before, last, hpieces⟩ : ∃ first before last,
      pieces (doubled isMarkup s) = first :: before ++ [last] := by
    obtain ⟨init, last, hinit⟩ := exists_pieces (doubled isMarkup s)
    cases init with
    | nil => exact absurd (by rw [hinit]; rfl) h
    | cons first before => exact ⟨first, before, last, hinit⟩
  obtain ⟨rest, hrest⟩ : ∃ rest, doubled isMarkup s = first ++ '|' :: rest := by
    obtain ⟨p, ps, hps⟩ := List.exists_cons_of_ne_nil (by simp : before ++ [last] ≠ [])
    refine ⟨bar.intercalate (p :: ps), ?_⟩
    rw [← hjoin, hpieces, List.cons_append, hps, List.intercalate_cons_cons, List.append_assoc]
    rfl
  obtain ⟨f, hf⟩ := readPiece_of_literal hrest
  refine ⟨f, ?_⟩
  rw [hpieces, readPieces_append _ (by simp), List.map_cons, List.mapM_cons, hf]
  rfl

end Plural

/-! ### The template of a text -/

/-- The template of a text with level bars is one text. -/
theorem Template.parse_literal {text : String} (h : Plural.LevelBars text.toList) :
    parse (literal text) = .ok (.simple (String.ofList (doubled isBrace text.toList))) := by
  have hone : (Plural.pieces (doubled isMarkup text.toList)).length = 1 :=
    (Plural.length_pieces_doubled_iff rfl _).2 h
  obtain ⟨piece, hpiece⟩ := List.length_eq_one_iff.1 hone
  have hread : Plural.unescape (doubled isMarkup text.toList) = doubled isBrace text.toList := by
    rw [← Plural.escape_doubled, Plural.unescape_escape]
  rw [parse, literal, String.toList_ofList, hpiece]
  show Except.ok (Template.simple (String.ofList (Plural.unescape _))) = _
  rw [hread]

/-- The template of any other text is refused. -/
theorem Template.exists_parse_literal {text : String} (h : ¬ Plural.LevelBars text.toList) :
    ∃ f, parse (literal text) = .error f := by
  rw [parse, literal, String.toList_ofList]
  exact Plural.readPieces_of_literal (mt (Plural.length_pieces_doubled_iff rfl _).1 h)

namespace Formatter

/-- Whatever a formatter of the usual rule has been used for, in every context it makes of the
    template of a text that very text, if the bars of the text are level, and else refuses the
    template as malformed. -/
theorem format_literal {capacity : Option Number.Double} {f : Formatter}
    (hf : ofCapacity capacity = .ok f) (uses : List (Locale × String × Context)) (l : Locale)
    (text : String) (c : Context) :
    (Plural.LevelBars text.toList →
      (∃ t, Template.parse (Template.literal text) = .ok (.simple t)) ∧
      ((f.after uses).format l (Template.literal text) c).1 = .formatted text) ∧
    (¬ Plural.LevelBars text.toList →
      ∃ fault, Template.parse (Template.literal text) = .error fault ∧
        ((f.after uses).format l (Template.literal text) c).1
          = .failed (.fault (.ofTemplate (Template.literal text) fault))) := by
  have hfaithful : f.Faithful := faithful_ofCapacity hf
  obtain ⟨hsteady, hrule⟩ := (steady_of_faithful hfaithful).after uses
  have hanswer : ((f.after uses).format l (Template.literal text) c).1
      = formatSource (Template.literal text) c := by
    rw [(hsteady.format l _ c).1, hrule, rule_of_faithful hfaithful]
  rw [hanswer]
  constructor
  · intro hlevel
    have hparse := Template.parse_literal hlevel
    refine ⟨⟨_, hparse⟩, ?_⟩
    rw [formatSource, hparse]
    show Outcome.formatted (interpolate _ c) = _
    rw [interpolate_doubled, String.ofList_toList]
  · intro hlevel
    obtain ⟨fault, hparse⟩ := Template.exists_parse_literal hlevel
    exact ⟨fault, hparse, by rw [formatSource, hparse]⟩

/-- Guard look-alikes, braces beside bars, a run between a prepended mark and an accent, and bars at
    both ends. -/
theorem format_literal_mixed :
    ofCapacity none = .ok usual ∧
      (usual.format default
        (Template.literal "|\x7b1\x7d a |\x7b\x7b|| \u0600||\u0301\x7d|") .empty).1
          = .formatted "|\x7b1\x7d a |\x7b\x7b|| \u0600||\u0301\x7d|" := by
  have hf : ofCapacity none = .ok usual := rfl
  refine ⟨hf, ((format_literal hf [] default _ .empty).1 ?_).2⟩
  decide +kernel

/-- The template of a bar with an accent on it is refused, so not every text can be written out. -/
theorem not_format_literal :
    Template.literal "|\u0301" = "||\u0301" ∧
      (usual.format default "||\u0301" .empty).1
        = .failed (.fault (.malformedTemplate
            "failed to parse guard for '', expected '\x7b'" "||\u0301")) ∧
      ¬ ∀ (text : String) (c : Context),
        (usual.format default (Template.literal text) c).1 = .formatted text := by
  have hliteral : Template.literal "|\u0301" = "||\u0301" := by decide
  have hpieces : Plural.pieces "||\u0301".toList = [[], ['|', '\u0301']] := by decide +kernel
  have hparse : Template.parse "||\u0301" = .error ⟨"", .unguarded⟩ := by
    rw [Template.parse, hpieces]
    rfl
  have hformat : (usual.format default "||\u0301" .empty).1
      = .failed (.fault (.malformedTemplate
          "failed to parse guard for '', expected '\x7b'" "||\u0301")) := by
    have huse : Cache.use { capacity := Cache.defaultCapacity } "||\u0301"
        = .error ⟨"", .unguarded⟩ := by
      rw [Cache.use, hparse]
      rfl
    rw [usual, format, huse]
    rfl
  refine ⟨hliteral, hformat, fun h => ?_⟩
  have hformatted := h "|\u0301" .empty
  rw [hliteral, hformat] at hformatted
  exact absurd hformatted (by simp)

end Formatter

end Phrasebook

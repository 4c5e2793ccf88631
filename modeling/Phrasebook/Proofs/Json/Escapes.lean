import Phrasebook.Proofs.MessageContents

namespace Phrasebook

/-!
# Contents without escapes for units

Only an escape for a unit can state half of a surrogate pair, so a content without one is whole,
and strings say all that it says.

* `NoUnitEscape`: a content without such an escape.
* `Json.WholeMember`, `Json.Whole`, `Json.Reader.Whole`: what has been read so far has no half of a
  pair alone.
* `Json.Reader.Whole.step`, `Json.Reader.whole_of_readAfter`: reading keeps it so, character by
  character and to the end.
* `NoUnitEscape.wholeContent`: a content without such an escape is whole.
-/

/-- No backslash is followed by the letter of an escape for a unit. -/
def NoUnitEscape (content : String) : Prop :=
  ¬ ['\\', 'u'] <:+: content.toList

/-- A string says no half of a pair. -/
theorem UnitText.isWhole_ofString (s : String) : (UnitText.ofString s).IsWhole :=
  isWhole_iff.2 ⟨s, rfl⟩

/-- A whole text stays whole with a character at its end. -/
theorem UnitText.isWhole_append {ns : List Nat} (h : (⟨ns⟩ : UnitText).IsWhole) (c : Char) :
    (⟨ns ++ Text.charUnits c⟩ : UnitText).IsWhole := by
  obtain ⟨s, hs⟩ := isWhole_iff.1 h
  have hns : Text.units s.toList = ns := congrArg UnitText.units hs
  refine isWhole_iff.2 ⟨String.ofList (s.toList ++ [c]), ?_⟩
  rw [ofString, String.toList_ofList, Text.units_append, hns, Text.units_cons, Text.units_nil,
    List.append_nil]

namespace Json

/-! ### What has been read -/

/-- A member whose name, and whose value if it is a text, a string can say. -/
def WholeMember (m : UnitText × Json) : Prop :=
  m.1.IsWhole ∧ ∀ t, m.2.text? = some t → t.IsWhole

/-- A value that strings can say as the content of a message file: deeper values do not matter. -/
structure Whole (v : Json) : Prop where
  text : ∀ t, v.text? = some t → t.IsWhole
  members : ∀ ms, v.members? = some ms → ∀ m ∈ ms, WholeMember m

/-- The members around a value that is being read, and its name. -/
def Frame.Whole : Frame → Prop
  | .list _ => True
  | .record ms key => (∀ m ∈ ms, WholeMember m) ∧ key.IsWhole

/-- The members before a name. -/
def Role.Whole : Role → Prop
  | .value => True
  | .name ms => ∀ m ∈ ms, WholeMember m

/-- What is being read after a last character.  A unit by its digits is never whole: it may be half
    of a pair. -/
def Part.Whole (last : Option Char) : Part → Prop
  | .value | .number .. => True
  | .name ms => ∀ m ∈ ms, WholeMember m
  | .colon ms key => (∀ m ∈ ms, WholeMember m) ∧ key.IsWhole
  | .next v | .word _ v => v.Whole
  | .text role ns => role.Whole ∧ (⟨ns.reverse⟩ : UnitText).IsWhole
  | .escape role ns =>
    last = some '\\' ∧ role.Whole ∧ (⟨ns.reverse⟩ : UnitText).IsWhole
  | .unit .. => False

namespace Reader

/-- Nothing that has been read, up to a last character, has half of a pair alone. -/
structure Whole (last : Option Char) (r : Reader) : Prop where
  stack : ∀ f ∈ r.stack, f.Whole
  part : r.part.Whole last

/-- Values that are neither texts nor objects have nothing that a string could not say. -/
theorem whole_plain {v : Json} (ht : v.text? = none) (hm : v.members? = none) : v.Whole where
  text t h := absurd (ht.symm.trans h) (by simp)
  members ms h := absurd (hm.symm.trans h) (by simp)

/-- An object of whole members is whole. -/
theorem whole_record {ms : List (UnitText × Json)} (h : ∀ m ∈ ms, WholeMember m) :
    (Json.record ms).Whole where
  text t ht := absurd ht (by simp [text?])
  members ms' hms := Option.some.inj hms ▸ h

variable {last : Option Char}

/-- A text that is whole, as the value or the name that it is. -/
theorem whole_afterText {role : Role} {t : UnitText} (hrole : role.Whole) (ht : t.IsWhole) :
    (afterText role t).Whole last := by
  cases role with
  | value =>
    refine ⟨fun t' h => ?_, fun ms h => absurd h (by simp [members?])⟩
    rwa [← Option.some.inj h]
  | name ms => exact ⟨hrole, ht⟩

/-! ### One character -/

variable {r r' : Reader} {stack : List Frame} {c : Char}

/-- A value that starts says nothing yet. -/
theorem whole_value (h : ∀ f ∈ stack, f.Whole) (hstep : value stack c = .ok r') :
    r'.Whole last := by
  simp only [value] at hstep
  split at hstep
  case h_10 =>
    split at hstep
    · obtain rfl := Except.ok.inj hstep
      exact ⟨h, trivial⟩
    · exact absurd hstep (by simp)
  all_goals obtain rfl := Except.ok.inj hstep
  case h_1 => exact ⟨List.forall_mem_cons.2 ⟨trivial, h⟩, trivial⟩
  case h_2 => exact ⟨h, List.forall_mem_nil _⟩
  case h_3 => exact ⟨h, trivial, UnitText.isWhole_ofString ""⟩
  case h_4 | h_5 => exact ⟨h, trivial⟩
  case h_6 | h_7 | h_8 => exact ⟨h, whole_plain rfl rfl⟩
  case h_9 => exact ⟨(List.forall_mem_cons.1 h).2, whole_plain rfl rfl⟩

/-- What follows a value closes what is around it, or makes room for the next one. -/
theorem whole_next (h : ∀ f ∈ stack, f.Whole) {v : Json} (hv : v.Whole)
    (hstep : next stack v c = .ok r') : r'.Whole last := by
  -- with the value, the members of an object so far are whole
  have hmembers : ∀ {ms key stack'}, stack = .record ms key :: stack' →
      (∀ f ∈ stack', f.Whole) ∧ ∀ m ∈ (key, v) :: ms, WholeMember m := by
    rintro ms key stack' rfl
    obtain ⟨⟨hms, hkey⟩, hstack⟩ := List.forall_mem_cons.1 h
    exact ⟨hstack, List.forall_mem_cons.2 ⟨⟨hkey, hv.text⟩, hms⟩⟩
  simp only [next] at hstep
  split at hstep
  · obtain rfl := Except.ok.inj hstep
    exact ⟨h, hv⟩
  · split at hstep
    case h_1 | h_4 | h_7 => exact absurd hstep (by simp)
    all_goals obtain rfl := Except.ok.inj hstep
    case h_2 => exact ⟨List.forall_mem_cons.2 ⟨trivial, (List.forall_mem_cons.1 h).2⟩, trivial⟩
    case h_3 => exact ⟨(List.forall_mem_cons.1 h).2, whole_plain rfl rfl⟩
    case h_5 => exact ⟨(hmembers rfl).1, (hmembers rfl).2⟩
    case h_6 =>
      refine ⟨(hmembers rfl).1, whole_record fun m hm => ?_⟩
      exact (hmembers rfl).2 m (List.mem_reverse.1 hm)

/-- A number says nothing that a string could not say. -/
theorem whole_numberOf (cs : List Char) : (numberOf cs).Whole := by
  fun_cases numberOf cs <;> exact whole_plain rfl rfl

/-- A number goes on, or is followed by what follows a value. -/
theorem whole_number (h : ∀ f ∈ stack, f.Whole) {p : NumberPart} {cs : List Char}
    (hstep : number stack p cs c = .ok r') : r'.Whole last := by
  rw [number] at hstep
  split at hstep
  · exact absurd hstep (by simp)
  · obtain rfl := Except.ok.inj hstep
    exact ⟨h, trivial⟩
  · exact whole_next h (whole_numberOf _) hstep

/-- One unit that an escaped character stands for. -/
theorem isWhole_escaped {ns : List Nat} (h : (⟨ns.reverse⟩ : UnitText).IsWhole) {n : Nat}
    (hn : escaped? c = some n) : (⟨(n :: ns).reverse⟩ : UnitText).IsWhole := by
  have hunits : ∃ d : Char, Text.charUnits d = [n] := by
    unfold escaped? at hn
    split at hn
    case h_9 => exact absurd hn (by simp)
    all_goals exact ⟨Char.ofNat n, by cases Option.some.inj hn; decide⟩
  obtain ⟨d, hd⟩ := hunits
  rw [List.reverse_cons, ← hd]
  exact UnitText.isWhole_append h d

/-- Reading a character keeps all that has been read whole, unless an escape for a unit starts. -/
theorem Whole.step (h : r.Whole last) (hescape : ¬ (last = some '\\' ∧ c = 'u'))
    (hstep : r.step c = .ok r') : r'.Whole (some c) := by
  obtain ⟨stack, part⟩ := r
  obtain ⟨hstack, hpart⟩ := h
  -- one case a place in the text; only a unit escape could leave half of a pair, and that is shut
  -- out
  cases part with
  | value =>
    simp only [Reader.step] at hstep
    split at hstep
    · obtain rfl := Except.ok.inj hstep
      exact ⟨hstack, trivial⟩
    · exact whole_value hstack hstep
  | name ms =>
    simp only [Reader.step] at hstep
    split at hstep
    · obtain rfl := Except.ok.inj hstep
      exact ⟨hstack, hpart⟩
    · split at hstep
      · obtain rfl := Except.ok.inj hstep
        exact ⟨hstack, hpart, UnitText.isWhole_ofString ""⟩
      · split at hstep
        · exact absurd hstep (by simp)
        · split at hstep
          · obtain rfl := Except.ok.inj hstep
            exact ⟨hstack, whole_record (List.forall_mem_nil _)⟩
          · exact absurd hstep (by simp)
  | colon ms key =>
    simp only [Reader.step] at hstep
    split at hstep
    · obtain rfl := Except.ok.inj hstep
      exact ⟨hstack, hpart⟩
    · split at hstep
      · obtain rfl := Except.ok.inj hstep
        -- the member goes on the stack until its value is read
        exact ⟨List.forall_mem_cons.2 ⟨hpart, hstack⟩, trivial⟩
      · exact absurd hstep (by simp)
  | next v => exact whole_next hstack hpart hstep
  | word owed v =>
    cases owed with
    | nil => exact whole_next hstack hpart hstep
    | cons d ds =>
      simp only [Reader.step] at hstep
      split at hstep
      · obtain rfl := Except.ok.inj hstep
        exact ⟨hstack, hpart⟩
      · exact absurd hstep (by simp)
  | number p cs => exact whole_number hstack hstep
  | text role ns =>
    obtain ⟨hrole, hns⟩ := hpart
    simp only [Reader.step] at hstep
    split at hstep
    · obtain rfl := Except.ok.inj hstep
      exact ⟨hstack, whole_afterText hrole hns⟩
    · split at hstep
      -- from here on the last character is a backslash
      · next hbackslash =>
        obtain rfl := Except.ok.inj hstep
        exact ⟨hstack, congrArg some hbackslash, hrole, hns⟩
      · split at hstep
        · exact absurd hstep (by simp)
        · obtain rfl := Except.ok.inj hstep
          refine ⟨hstack, hrole, ?_⟩
          rw [List.reverse_append, List.reverse_reverse]
          exact UnitText.isWhole_append hns c
  | escape role ns =>
    obtain ⟨hlast, hrole, hns⟩ := hpart
    -- the escape of a unit is the only one that is not a whole character
    have hu : c ≠ 'u' := fun hu => hescape ⟨hlast, hu⟩
    simp only [Reader.step, if_neg hu] at hstep
    split at hstep
    · next n hn =>
      obtain rfl := Except.ok.inj hstep
      exact ⟨hstack, hrole, isWhole_escaped hns hn⟩
    · exact absurd hstep (by simp)
  -- the reader is never in a unit
  | unit role ns owed value => exact hpart.elim

/-! ### A whole content -/

/-- A value at the end of a content is one that was read last. -/
theorem whole_of_finish (h : r.Whole last) {v : Json} (hv : r.finish = .ok v) : v.Whole := by
  have hclose : ∀ {v'}, v'.Whole → close r.stack v' = .ok v → v.Whole := by
    intro v' hv' hclose
    unfold close at hclose
    split at hclose
    · rwa [← Except.ok.inj hclose]
    · exact absurd hclose (by simp)
    · exact absurd hclose (by simp)
  have hpart := h.part
  simp only [finish] at hv
  split at hv
  case h_12 => exact hclose (whole_numberOf _) hv
  case h_13 v' hnext =>
    rw [hnext] at hpart
    exact hclose hpart hv
  case h_14 v' hword =>
    rw [hword] at hpart
    exact hclose hpart hv
  all_goals exact absurd hv (by simp)

/-- Reading a content without an escape for a unit leaves a whole value. -/
theorem whole_of_readAfter {before cs : List Char} {v : Json} (h : r.Whole last)
    (hescape : ¬ ['\\', 'u'] <:+: last.toList ++ cs) (hread : readAfter r before cs = .ok v) :
    v.Whole := by
  induction cs generalizing r before last with
  | nil =>
    rw [readAfter] at hread
    cases hfinish : r.finish with
    | error cause =>
      rw [hfinish] at hread
      exact absurd hread (by simp [Except.mapError])
    | ok v' =>
      rw [hfinish] at hread
      obtain rfl : v' = v := Except.ok.inj hread
      exact whole_of_finish h hfinish
  | cons c cs ih =>
    rw [readAfter] at hread
    split at hread
    · next r' hstep =>
      refine ih (h.step ?_ hstep) (fun hpair => hescape (hpair.trans ?_)) hread
      · rintro ⟨rfl, rfl⟩
        exact hescape ⟨[], cs, rfl⟩
      · exact (List.suffix_append last.toList (c :: cs)).isInfix
    · exact absurd hread (by simp)

end Reader

end Json

/-- The names of an object without an escape for a unit, and its texts, are whole. -/
theorem ObjectText.whole {content : String} {os : List (UnitText × Json)}
    (h : ObjectText content os) (hescape : NoUnitEscape content) :
    ∀ m ∈ os, Json.WholeMember m := by
  obtain ⟨members, hread, hlists⟩ := h
  have hstart : Json.Reader.Whole none {} := ⟨List.forall_mem_nil _, trivial⟩
  have hwhole : (Json.record members).Whole := Json.Reader.whole_of_readAfter hstart hescape hread
  rintro ⟨id, v⟩ hm
  have hlookup : lookupEntry id os = some v := (lookupEntry_eq_some_iff hlists.nodup id v).2 hm
  rw [hlists.values] at hlookup
  exact hwhole.members members rfl _ (List.mem_reverse.1 (mem_of_lookupEntry hlookup))

/-- A content without an escape for a unit is whole. -/
theorem NoUnitEscape.wholeContent {content : String} (hescape : NoUnitEscape content) :
    WholeContent content := by
  rw [WholeContent]
  split
  · next ms hms =>
    obtain ⟨hobject, -⟩ := messagesIn_eq_ok_iff.1 hms
    intro m hm
    obtain ⟨hname, htext⟩ := hobject.whole hescape _ (mem_textMembers_iff.2 hm)
    exact ⟨hname, htext m.2 rfl⟩
  · next issues hissues =>
    intro i hi
    cases messagesIn_eq_error_iff.1 hissues with
    | notObject v h hv =>
      obtain rfl := List.mem_singleton.1 hi
      exact UnitText.isWhole_ofString ""
    | notTexts os h hos =>
      obtain ⟨m, hm, rfl⟩ := List.mem_map.1 hi
      exact (h.whole hescape m (List.mem_filter.1 hm).1).1
    | reserved ms h hms =>
      obtain rfl := List.mem_singleton.1 hi
      exact UnitText.isWhole_ofString reservedId
  · trivial

end Phrasebook

import Phrasebook.Proofs.Plural.Literal

namespace Phrasebook

/-!
# Literals in front of a text

A literal is written by doubling its braces.  Doubled braces are read in pairs from the left, so
none of them is paired with a brace of the text after the literal, however many stand on either
side.

* `escapeBraces`: a text as a literal.
* `segments_escapeBraces_append`: a literal is cut off character by character, and the text after it
  is cut as it is on its own.
* `Pass.finish_escapeBraces_append`: a pass that comes to a literal puts it out, takes no value for
  it and goes on with the text after it.
* `interpolate_escapeBraces_append`: a literal in front of a text.
-/

open Plural (doubled)

/-- A text as a literal: each of its braces doubled. -/
def escapeBraces (text : String) : String :=
  String.ofList (doubled isBrace text.toList)

/-- An escaped text has its braces doubled, whatever follows. -/
theorem toList_escapeBraces_append (s t : String) :
    (escapeBraces s ++ t).toList = doubled isBrace s.toList ++ t.toList := by
  rw [escapeBraces, String.toList_append, String.toList_ofList]

/-- A literal is cut off character by character. -/
theorem segments_escapeBraces_append (s t : String) :
    segments (escapeBraces s ++ t).toList
      = s.toList.map Segment.ofChar ++ segments t.toList := by
  have hcut := segmentation_doubled_append s.toList (segmentation_segments t.toList)
  rw [toList_escapeBraces_append, hcut.eq_segments]

/-- Characters of a text take no values. -/
theorem countP_isSequential_ofChar (s : List Char) :
    (s.map Segment.ofChar).countP Segment.isSequential = 0 := by
  rw [List.countP_eq_zero]
  intro p hp
  obtain ⟨ch, -, rfl⟩ := List.mem_map.1 hp
  rw [isSequential_ofChar]
  exact Bool.false_ne_true

/-- Characters of a text are put out as they are. -/
theorem outputs_ofChar_append (c : Context) (k : Nat) (s : List Char) (ps : List Segment) :
    outputs c k (s.map Segment.ofChar ++ ps) = s ++ outputs c k ps := by
  rw [← renderFrom_eq_outputs, renderFrom_ofChar_append, renderFrom_eq_outputs]

/-- A pass that comes to a literal, wherever that stands, puts it out and goes on with the text
    after it, with as many values taken as before. -/
theorem Pass.finish_escapeBraces_append (c : Context) (s t : String) (k : Nat) (out : List Char) :
    finish c ⟨(escapeBraces s ++ t).toList, k, out⟩
      = finish c ⟨t.toList, k, out ++ s.toList⟩ := by
  have hrest := segmentation_segments t.toList
  rw [toList_escapeBraces_append, finish_eq c (segmentation_doubled_append s.toList hrest),
    finish_eq c hrest, outputs_ofChar_append, List.append_assoc]

/-- A literal in front of a text is put out as it was before its braces were doubled, and the text
    after it as it is on its own, whatever braces the two have where they meet.  The literal is cut
    off character by character and takes none of the values that nameless placeholders take in
    order.  A pass that comes to a literal anywhere in a text reads it in the same way. -/
theorem interpolate_escapeBraces_append (s t : String) (c : Context) :
    interpolate (escapeBraces s ++ t) c = s ++ interpolate t c ∧
      segments (escapeBraces s ++ t).toList
        = s.toList.map Segment.ofChar ++ segments t.toList ∧
      (s.toList.map Segment.ofChar).countP Segment.isSequential = 0 ∧
      ∀ (k : Nat) (out : List Char),
        Pass.finish c ⟨(escapeBraces s ++ t).toList, k, out⟩
          = Pass.finish c ⟨t.toList, k, out ++ s.toList⟩ := by
  refine ⟨?_, segments_escapeBraces_append s t, countP_isSequential_ofChar s.toList,
    Pass.finish_escapeBraces_append c s t⟩
  rw [interpolate, interpolate, segments_escapeBraces_append, renderFrom_ofChar_append,
    String.ofList_append, String.ofList_toList]

/-- Braces on both sides of where the two meet, and placeholders after it that take values in
    order. -/
example :
    interpolate (escapeBraces "\x7b\x7d\x7d" ++ "\x7d\x7b\x7d\x7b\x7b\x7b\x7d")
        { values := [("a", .text "1"), ("b", .text "2")] }
      = "\x7b\x7d\x7d" ++ "\x7d1\x7b2" := by
  cbv

end Phrasebook

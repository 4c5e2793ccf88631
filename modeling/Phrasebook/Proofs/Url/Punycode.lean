import Mathlib.Data.List.TakeWhile
import Mathlib.Tactic.Ring
import Phrasebook.Proofs.Dict
import Phrasebook.Url.Punycode

namespace Phrasebook.Url.Punycode

/-!
# Labels in plain letters are read back

Letters are put into a label in the order of their code points, and those of one code point from the
left.  Reading takes the same steps as writing, so it is enough to say what both have in common
after each of them.

* `foldlM_step_digitsOf`: a number that is written is read back.
* `Follows`: reading has come as far as writing.
* `Follows.pass`, `Follows.passAll`, `Follows.insert`, `Follows.insertAll`: it stays so for a
  letter, for a pass through the label, for a code point, and for all of them.
* `isPlain_of_mem_encode`: a label is written with plain letters.
* `decode?_encode`: the label that is written is the one that is read.
-/

/-! ### Digits -/

/-- A digit below the threshold ends a number, and there is one. -/
theorem threshold_pos (position bias : Nat) : 0 < threshold position bias := by
  unfold threshold
  split
  · omega
  · split <;> omega

/-- The digits at and above the threshold are many enough for every number to end. -/
theorem threshold_le (position bias : Nat) : threshold position bias ≤ 26 := by
  unfold threshold
  split
  · omega
  · split <;> omega

/-- The letter of a digit is read as the digit. -/
theorem digit?_digitChar_of_lt {d : Nat} (h : d < base) : digit? (digitChar d) = some d :=
  digit?_digitChar ⟨d, h⟩

/-- A digit is a plain letter and no hyphen. -/
theorem of_digit? {c : Char} {n : Nat} (h : digit? c = some n) :
    isPlain c = true ∧ c ≠ '-' := by
  have hplain : c.toNat < 0x80 ∧ c ≠ '-' := by
    unfold digit? at h
    split at h
    · next hletter =>
      have hle : c.toNat ≤ 'z'.toNat := hletter.2
      refine ⟨Nat.lt_of_le_of_lt hle (by decide), ?_⟩
      rintro rfl
      exact absurd hletter.1 (by decide)
    · split at h
      · next hdigit =>
        have hle : c.toNat ≤ '9'.toNat := hdigit.2
        refine ⟨Nat.lt_of_le_of_lt hle (by decide), ?_⟩
        rintro rfl
        exact absurd hdigit.1 (by decide)
      · exact absurd h (by simp)
  exact ⟨decide_eq_true hplain.1, hplain.2⟩

/-- A decoder with a part of a number read. -/
def Decoder.reading (d : Decoder) (value weight position : Nat) : Decoder :=
  { d with value := value, weight := weight, position := position }

/-- One digit of a number: the number ends there, or its next digit is worth more. -/
theorem step_digit {d : Decoder} {n : Nat} (hn : n < base)
    (hlimit : d.value + n * d.weight ≤ limit) :
    d.step (digitChar n)
      = if n < threshold d.position d.bias then d.put (d.value + n * d.weight)
        else some (d.reading (d.value + n * d.weight)
          (d.weight * (base - threshold d.position d.bias)) (d.position + base)) := by
  unfold Decoder.step
  rw [digit?_digitChar_of_lt hn]
  exact if_neg (Nat.not_lt.2 hlimit)

theorem foldlM_step_singleton (d : Decoder) (c : Char) :
    [c].foldlM Decoder.step d = d.step c := by
  rw [List.foldlM_cons]
  exact bind_pure (d.step c)

/-- A number that is written from some position on is read as the number, at the worth of that
    position; then its letter is put in. -/
theorem foldlM_step_digitsOf (d : Decoder) {fuel position n value weight : Nat} (hn : n ≤ fuel)
    (hlimit : value + n * weight ≤ limit) :
    (digitsOf d.bias fuel position n).foldlM Decoder.step (d.reading value weight position)
      = d.put (value + n * weight) := by
  have hbase : base = 36 := rfl
  -- on the fuel of the writer; what the digit is worth moves from step to step
  induction fuel generalizing n position value weight with
  | zero =>
    obtain rfl : n = 0 := Nat.le_zero.1 hn
    have hstep := step_digit (d := d.reading value weight position) (n := 0) (by decide) hlimit
    rw [if_pos (threshold_pos _ _)] at hstep
    rw [digitsOf, foldlM_step_singleton, hstep]
    rfl
  | succ fuel ih =>
    obtain ⟨t, ht⟩ : ∃ t, t = threshold position d.bias := ⟨_, rfl⟩
    have hpos : 0 < t := ht ▸ threshold_pos position d.bias
    have hle : t ≤ 26 := ht ▸ threshold_le position d.bias
    have hread : ∀ {m}, m < base → value + m * weight ≤ limit →
        (d.reading value weight position).step (digitChar m)
          = if m < t then d.put (value + m * weight)
            else some (d.reading (value + m * weight) (weight * (base - t)) (position + base)) := by
      intro m hm hm'
      rw [ht]
      exact step_digit (d := d.reading value weight position) hm hm'
    rw [digitsOf]
    simp only [← ht]
    by_cases hlt : n < t
    · rw [if_pos hlt, foldlM_step_singleton, hread (by omega) hlimit, if_pos hlt]
    · -- the digit is what is left of the number, and the rest is smaller
      obtain ⟨q, hq⟩ : ∃ q, q = (n - t) / (base - t) := ⟨_, rfl⟩
      obtain ⟨r, hr⟩ : ∃ r, r = (n - t) % (base - t) := ⟨_, rfl⟩
      have hrlt : r < base - t := hr ▸ Nat.mod_lt _ (by omega)
      have hsplit : n = t + r + q * (base - t) := by
        have hdiv := Nat.div_add_mod (n - t) (base - t)
        rw [← hq, ← hr, Nat.mul_comm] at hdiv
        omega
      have hworth : value + (t + r) * weight + q * (weight * (base - t))
          = value + n * weight := by
        rw [hsplit]
        ring
      have hqle : q ≤ fuel := by
        have hqn : q ≤ n - t := hq ▸ Nat.div_le_self _ _
        omega
      rw [if_neg hlt, ← hr, ← hq, List.foldlM_cons, hread (by omega) (by omega),
        if_neg (by omega)]
      show (digitsOf d.bias fuel (position + base) q).foldlM Decoder.step _ = _
      rw [ih hqle (by omega), hworth]

/-- How far the next letter goes, as it is written, is read where a number starts, and the letter is
    put in there. -/
theorem foldlM_step_written (d : Decoder) {n : Nat} (hstart : d = d.reading d.start 1 base)
    (hlimit : d.start + n ≤ limit) :
    (digitsOf d.bias n base n).foldlM Decoder.step d = d.put (d.start + n) := by
  have hread : (digitsOf d.bias n base n).foldlM Decoder.step (d.reading d.start 1 base)
      = d.put (d.start + n * 1) := foldlM_step_digitsOf d (Nat.le_refl n) (by omega)
  rwa [← hstart, Nat.mul_one] at hread

/-- A number is written in digits. -/
theorem isSome_digit?_of_mem_digitsOf {bias fuel position n : Nat} (hn : n ≤ fuel) {c : Char}
    (hc : c ∈ digitsOf bias fuel position n) : (digit? c).isSome = true := by
  have hbase : base = 36 := rfl
  have hdigit : ∀ {d}, d < base → (digit? (digitChar d)).isSome = true := by
    intro d hd
    rw [digit?_digitChar_of_lt hd]
    rfl
  induction fuel generalizing n position with
  | zero =>
    obtain rfl : n = 0 := Nat.le_zero.1 hn
    rw [List.mem_singleton.1 hc]
    exact hdigit (by decide)
  | succ fuel ih =>
    have hpos := threshold_pos position bias
    have hle := threshold_le position bias
    rw [digitsOf] at hc
    split at hc
    · rw [List.mem_singleton.1 hc]
      exact hdigit (by omega)
    · rcases List.mem_cons.1 hc with rfl | hc
      · have hlt := Nat.mod_lt (n - threshold position bias)
          (show 0 < base - threshold position bias by omega)
        exact hdigit (by omega)
      · have hdiv := Nat.div_le_self (n - threshold position bias) (base - threshold position bias)
        exact ih (by omega) hc

/-! ### What is written -/

/-- Nothing but digits is written. -/
def Encoder.InDigits (e : Encoder) : Prop :=
  ∀ c ∈ e.written, (digit? c).isSome = true

/-- A letter that is passed or put in. -/
theorem Encoder.InDigits.pass {e : Encoder} (h : e.InDigits) (code : Nat) (c : Char) :
    (e.pass code c).InDigits := by
  unfold Encoder.pass
  split
  · exact h
  · split
    · intro c hc
      rcases List.mem_append.1 hc with hc | hc
      · exact h c hc
      · exact isSome_digit?_of_mem_digitsOf (Nat.le_refl _) hc
    · exact h

/-- All letters with one code point. -/
theorem Encoder.InDigits.insert {e : Encoder} (h : e.InDigits) (label : List Char)
    (next code : Nat) : (e.insert label next code).InDigits := by
  have hfold : ∀ {e : Encoder}, e.InDigits → (label.foldl (Encoder.pass code) e).InDigits := by
    intro e he
    induction label generalizing e with
    | nil => exact he
    | cons c label ih => exact ih (he.pass code c)
  exact hfold (e := { e with distance := e.distance + (code - next) * (e.count + 1) }) h

/-- All letters with any of a row of code points. -/
theorem Encoder.InDigits.insertAll {e : Encoder} (h : e.InDigits) (label : List Char) (next : Nat)
    (codes : List Nat) : (Encoder.insertAll label next codes e).InDigits := by
  induction codes generalizing next e with
  | nil => exact h
  | cons code codes ih => exact ih (h.insert label next code) (code + 1)

/-- The code points beyond the plain letters, each once and in ascending order. -/
def codesOf (label : List Char) : List Nat :=
  ((label.filter fun c => !isPlain c).map Char.toNat).eraseDups.mergeSort

/-- The digits after the plain letters of a label. -/
def digitsFor (label : List Char) : List Char :=
  (Encoder.insertAll label firstCode (codesOf label)
    { plainCount := (label.filter isPlain).length, count := (label.filter isPlain).length }).written

/-- The plain letters come first, and then the digits. -/
theorem encode_eq (label : List Char) :
    encode label
      = (if (label.filter isPlain).isEmpty then [] else label.filter isPlain ++ ['-'])
        ++ digitsFor label := rfl

/-- What comes after the plain letters is written in digits. -/
theorem isSome_digit?_of_mem_digitsFor {label : List Char} {c : Char} (hc : c ∈ digitsFor label) :
    (digit? c).isSome = true := by
  have hstart : Encoder.InDigits
      { plainCount := (label.filter isPlain).length, count := (label.filter isPlain).length } :=
    List.forall_mem_nil _
  exact hstart.insertAll label _ _ c hc

/-- A label is written with plain letters. -/
theorem isPlain_of_mem_encode {label : List Char} {c : Char} (hc : c ∈ encode label) :
    isPlain c = true := by
  rw [encode_eq] at hc
  rcases List.mem_append.1 hc with hc | hc
  · split at hc
    · exact absurd hc List.not_mem_nil
    · rcases List.mem_append.1 hc with hc | hc
      · exact (List.mem_filter.1 hc).2
      · rw [List.mem_singleton.1 hc]
        decide
  · obtain ⟨n, hn⟩ := Option.isSome_iff_exists.1 (isSome_digit?_of_mem_digitsFor hc)
    exact (of_digit? hn).1

/-! ### Reading as far as writing -/

/-- Reading from `start` has come as far as writing, where of a label the letters `passed` have been
    passed for the code point `code` and the letters `rest` are still to come: it is between two
    numbers, and has the letters of all lesser code points and those of this one among the letters
    passed. -/
structure Follows (start d : Decoder) (e : Encoder) (code : Nat) (passed rest : List Char) :
    Prop where
  read : e.written.foldlM Decoder.step start = some d
  between : d = d.reading d.start 1 base
  bias : d.bias = e.bias
  label : d.label = passed.filter (fun c => c.toNat ≤ code) ++ rest.filter (fun c => c.toNat < code)
  count : e.count = d.label.length
  plainCount : e.plainCount ≤ e.count
  isFirst : (d.start == 0) = (e.count == e.plainCount)
  code_le : d.code ≤ code
  distance : d.start + e.distance = (code - d.code) * (d.label.length + 1)
    + (passed.filter fun c => c.toNat ≤ code).length

/-- A letter put in where reading is: the one with the code point that letters are passed for,
    behind the letters passed. -/
theorem put_eq (d : Decoder) {value : Nat} {c : Char} {before after : List Char}
    (hcode : d.code ≤ c.toNat) (hlabel : d.label = before ++ after)
    (hvalue : value = (c.toNat - d.code) * (d.label.length + 1) + before.length) :
    d.put value = some
      { label := before ++ c :: after, code := c.toNat, start := before.length + 1,
        bias := adapt (d.start == 0) (value - d.start) (d.label.length + 1),
        value := before.length + 1 } := by
  have hplace : before.length < d.label.length + 1 := by
    rw [hlabel, List.length_append]
    omega
  have hdiv : value / (d.label.length + 1) = c.toNat - d.code := by
    rw [hvalue, Nat.mul_comm, Nat.mul_add_div (Nat.succ_pos _), Nat.div_eq_of_lt hplace,
      Nat.add_zero]
  have hmod : value % (d.label.length + 1) = before.length := by
    rw [hvalue, Nat.mul_comm, Nat.mul_add_mod, Nat.mod_eq_of_lt hplace]
  have hnext : d.code + (c.toNat - d.code) = c.toNat := by omega
  have hinsert : d.label.insertIdx before.length c = before ++ c :: after := by
    rw [hlabel]
    clear hlabel hvalue hplace hdiv hmod
    induction before with
    | nil => rfl
    | cons b before ih => exact congrArg (b :: ·) ih
  unfold Decoder.put
  simp only [hdiv, hmod, hnext]
  rw [if_pos (show c.toNat.isValidChar from c.valid), Char.ofNat_toNat, hinsert]

section Pass

variable {start d : Decoder} {e : Encoder} {code : Nat} {passed rest : List Char} {c : Char}

/-- A letter with a lesser code point is passed: it stands in the label already. -/
theorem Follows.pass_of_lt (h : Follows start d e code passed (c :: rest)) (hc : c.toNat < code) :
    Follows start d { e with distance := e.distance + 1 } code (passed ++ [c]) rest := by
  have hpassed : (passed ++ [c]).filter (fun c => c.toNat ≤ code)
      = passed.filter (fun c => c.toNat ≤ code) ++ [c] := by
    rw [List.filter_append, List.filter_cons_of_pos (by simpa using Nat.le_of_lt hc)]
    rfl
  refine { h with label := ?_, distance := ?_ }
  · rw [h.label, hpassed, List.filter_cons_of_pos (by simpa using hc), List.append_assoc]
    rfl
  · rw [hpassed, List.length_append, ← Nat.add_assoc, ← Nat.add_assoc, ← h.distance]
    rfl

/-- A letter with a greater code point is passed over. -/
theorem Follows.pass_of_gt (h : Follows start d e code passed (c :: rest)) (hc : code < c.toNat) :
    Follows start d e code (passed ++ [c]) rest := by
  have hpassed : (passed ++ [c]).filter (fun c => c.toNat ≤ code)
      = passed.filter (fun c => c.toNat ≤ code) := by
    rw [List.filter_append, List.filter_cons_of_neg (by simpa using hc), List.filter_nil,
      List.append_nil]
  refine { h with label := ?_, distance := ?_ }
  · rw [h.label, hpassed, List.filter_cons_of_neg (by simpa using Nat.le_of_lt hc)]
  · rw [hpassed]
    exact h.distance

/-- A letter with the code point itself is put in. -/
theorem Follows.pass_of_eq (h : Follows start d e c.toNat passed (c :: rest))
    (hlimit : (c.toNat + 1) * (passed.length + rest.length + 1) ≤ limit) :
    ∃ d', Follows start d' (e.pass c.toNat c) c.toNat (passed ++ [c]) rest := by
  -- the label read so far, before and after the place of the letter
  obtain ⟨before, hbefore⟩ : ∃ before, before = passed.filter fun a => a.toNat ≤ c.toNat :=
    ⟨_, rfl⟩
  obtain ⟨after, hafter⟩ : ∃ after, after = rest.filter fun a => a.toNat < c.toNat := ⟨_, rfl⟩
  have hlabel : d.label = before ++ after := by
    rw [h.label, hbefore, hafter, List.filter_cons_of_neg (by simp)]
  have hpassed : (passed ++ [c]).filter (fun a => a.toNat ≤ c.toNat) = before ++ [c] := by
    rw [List.filter_append, List.filter_cons_of_pos (by simp), hbefore]
    rfl
  have hdistance := h.distance
  rw [← hbefore] at hdistance
  have hput := put_eq d h.code_le hlabel hdistance
  -- the bound of the reader is kept, as the label is no longer than the name
  have hvalue : d.start + e.distance ≤ limit := by
    have hbeforele : before.length ≤ passed.length := hbefore ▸ List.length_filter_le _ _
    have hafterle : after.length ≤ rest.length := hafter ▸ List.length_filter_le _ _
    have hlength : d.label.length = before.length + after.length := by
      rw [hlabel, List.length_append]
    rw [hdistance]
    calc (c.toNat - d.code) * (d.label.length + 1) + before.length
        ≤ c.toNat * (d.label.length + 1) + (d.label.length + 1) := by
          refine Nat.add_le_add (Nat.mul_le_mul_right _ (Nat.sub_le _ _)) ?_
          omega
      _ = (c.toNat + 1) * (d.label.length + 1) := (Nat.succ_mul _ _).symm
      _ ≤ (c.toNat + 1) * (passed.length + rest.length + 1) := by
          refine Nat.mul_le_mul_left _ ?_
          omega
      _ ≤ limit := hlimit
  -- the writer is at the code point of the letter, so it writes the distance
  have hpass : e.pass c.toNat c = { e with
      count := e.count + 1, distance := 0
      bias := adapt (e.count == e.plainCount) e.distance (e.count + 1)
      written := e.written ++ digitsOf e.bias e.distance base e.distance } := by
    unfold Encoder.pass
    rw [if_neg (Nat.lt_irrefl _), if_pos rfl]
  rw [hpass]
  -- what the reader is in then, field by field
  refine ⟨{ label := before ++ c :: after, code := c.toNat, start := before.length + 1,
            bias := adapt (d.start == 0) (d.start + e.distance - d.start) (d.label.length + 1),
            value := before.length + 1 },
    ?_, rfl, ?_, ?_, ?_, Nat.le_succ_of_le h.plainCount, ?_, Nat.le_refl _, ?_⟩
  · rw [List.foldlM_append, h.read, ← h.bias]
    exact (foldlM_step_written d h.between hvalue).trans hput
  · show adapt (d.start == 0) (d.start + e.distance - d.start) (d.label.length + 1) = _
    rw [h.isFirst, h.count, Nat.add_sub_cancel_left]
  · show before ++ c :: after = _
    rw [hpassed, ← hafter, List.append_assoc]
    rfl
  · show e.count + 1 = (before ++ c :: after).length
    rw [h.count, hlabel, List.length_append, List.length_append, List.length_cons]
    rfl
  · have hplain := h.plainCount
    show (before.length + 1 == 0) = (e.count + 1 == e.plainCount)
    rw [beq_eq_false_iff_ne.2 (by omega), beq_eq_false_iff_ne.2 (by omega)]
  · show before.length + 1 + 0 = (c.toNat - c.toNat) * _ + _
    rw [hpassed, Nat.sub_self, Nat.zero_mul, List.length_append, Nat.zero_add]
    rfl

/-- A letter is passed, or put in if it has the code point. -/
theorem Follows.pass (h : Follows start d e code passed (c :: rest))
    (hlimit : (code + 1) * (passed.length + rest.length + 1) ≤ limit) :
    ∃ d', Follows start d' (e.pass code c) code (passed ++ [c]) rest := by
  rcases Nat.lt_trichotomy c.toNat code with hlt | rfl | hgt
  · rw [show e.pass code c = { e with distance := e.distance + 1 } from if_pos hlt]
    exact ⟨d, h.pass_of_lt hlt⟩
  · exact h.pass_of_eq hlimit
  · have hpass : e.pass code c = e := by
      unfold Encoder.pass
      rw [if_neg (Nat.lt_asymm hgt), if_neg (Nat.ne_of_gt hgt)]
    rw [hpass]
    exact ⟨d, h.pass_of_gt hgt⟩

/-- The whole label is passed for one code point. -/
theorem Follows.passAll (h : Follows start d e code passed rest)
    (hlimit : (code + 1) * (passed.length + rest.length) ≤ limit) :
    ∃ d', Follows start d' (rest.foldl (Encoder.pass code) e) code (passed ++ rest) [] := by
  induction rest generalizing d e passed with
  | nil =>
    rw [List.append_nil]
    exact ⟨d, h⟩
  | cons c rest ih =>
    obtain ⟨d', hd'⟩ := h.pass hlimit
    rw [List.append_cons, List.foldl_cons]
    refine ih hd' ?_
    have hlength : (passed ++ [c]).length + rest.length = passed.length + (c :: rest).length := by
      rw [List.length_append, List.length_cons, List.length_cons, List.length_nil]
      omega
    rwa [hlength]

end Pass

/-! ### Every code point -/

section Codes

variable {start d : Decoder} {e : Encoder} {label : List Char} {next : Nat}

/-- The letters with one code point are put in, if none has a code point between those that came
    before and this one. -/
theorem Follows.insert (h : Follows start d e next [] label) {code : Nat} (hnext : next ≤ code)
    (hnone : ∀ c ∈ label, next ≤ c.toNat → code ≤ c.toNat)
    (hlimit : (code + 1) * label.length ≤ limit) :
    ∃ d', Follows start d' (e.insert label next code) (code + 1) [] label := by
  -- no letter has a code point from `next` to `code`, so that only the distance moves
  have hlater : Follows start d
      { e with distance := e.distance + (code - next) * (e.count + 1) } code [] label := by
    refine { h with label := ?_, code_le := Nat.le_trans h.code_le hnext, distance := ?_ }
    · rw [h.label]
      refine congrArg ([] ++ ·) (List.filter_congr fun c hc => ?_)
      have hc' := hnone c hc
      exact decide_eq_decide.2 ⟨fun hlt => by omega, fun hlt => by omega⟩
    · have hsplit : code - d.code = (next - d.code) + (code - next) := by
        have hle := h.code_le
        omega
      show d.start + (e.distance + (code - next) * (e.count + 1)) = _
      rw [← Nat.add_assoc, h.distance, h.count, hsplit, Nat.add_mul]
      exact Nat.add_right_comm _ _ _
  -- one pass over the label puts in all letters that have the code point
  obtain ⟨d', hd'⟩ := hlater.passAll (by rwa [List.length_nil, Nat.zero_add])
  -- and from there on they count as passed
  have hlabel : d'.label = label.filter fun c => c.toNat < code + 1 := by
    rw [hd'.label, List.filter_nil, List.append_nil, List.nil_append]
    exact List.filter_congr fun c _ => decide_eq_decide.2 Nat.lt_succ_iff.symm
  refine ⟨d', { hd' with label := hlabel, code_le := Nat.le_succ_of_le hd'.code_le,
                         distance := ?_ }⟩
  have hcode := hd'.code_le
  have hpassed :
      (([] ++ label).filter fun c : Char => c.toNat ≤ code).length = d'.label.length := by
    rw [hd'.label, List.filter_nil, List.append_nil]
  have hdistance := hd'.distance
  rw [hpassed] at hdistance
  show d'.start + (_ + 1) = (code + 1 - d'.code) * (d'.label.length + 1) + 0
  rw [Nat.succ_sub hcode, Nat.succ_mul, ← Nat.add_assoc, hdistance]
  rfl

/-- The letters with each of a row of ascending code points are put in. -/
theorem Follows.insertAll {codes : List Nat} (h : Follows start d e next [] label)
    (hcodes : codes.Pairwise (· < ·)) (hnext : ∀ code ∈ codes, next ≤ code)
    (hall : ∀ c ∈ label, next ≤ c.toNat → c.toNat ∈ codes)
    (hlimit : ∀ code ∈ codes, (code + 1) * label.length ≤ limit) :
    ∃ d', (Encoder.insertAll label next codes e).written.foldlM Decoder.step start = some d'
      ∧ d'.position = base ∧ d'.label = label := by
  induction codes generalizing d e next with
  | nil =>
    refine ⟨d, h.read, by rw [h.between]; rfl, ?_⟩
    rw [h.label, List.filter_nil, List.nil_append, List.filter_eq_self]
    intro c hc
    exact decide_eq_true (Nat.lt_of_not_le fun hle => List.not_mem_nil (hall c hc hle))
  | cons code codes ih =>
    obtain ⟨hlt, hcodes⟩ := List.pairwise_cons.1 hcodes
    obtain ⟨d', hd'⟩ := h.insert (hnext code List.mem_cons_self)
      (fun c hc hle => by
        rcases List.mem_cons.1 (hall c hc hle) with heq | hmem
        · exact Nat.le_of_eq heq.symm
        · exact Nat.le_of_lt (hlt _ hmem))
      (hlimit code List.mem_cons_self)
    refine ih hd' hcodes (fun code' h' => hlt code' h') (fun c hc hle => ?_)
      fun code' h' => hlimit code' (List.mem_cons_of_mem _ h')
    rcases List.mem_cons.1 (hall c hc (Nat.le_trans (hnext code List.mem_cons_self) (by omega)))
      with heq | hmem
    · omega
    · exact hmem

end Codes

/-! ### The label that is read -/

/-- The text after the last hyphen, and the one before it. -/
theorem splitLast_append {s digits : List Char} (h : '-' ∉ digits) :
    splitLast (s ++ '-' :: digits) = (s, digits) := by
  have hafter : ((s ++ '-' :: digits).reverse.takeWhile (· != '-')).reverse = digits := by
    rw [List.reverse_append, List.reverse_cons, List.append_assoc,
      List.takeWhile_append_of_pos (fun c hc => bne_iff_ne.2 ?_)]
    · rw [List.singleton_append, List.takeWhile_cons_of_neg (by simp), List.append_nil,
        List.reverse_reverse]
    · rintro rfl
      exact h (List.mem_reverse.1 hc)
  unfold splitLast
  simp only [hafter]
  rw [List.length_append, List.length_cons, List.append_cons,
    show s.length + (digits.length + 1) - digits.length = (s ++ ['-']).length by simp; omega,
    List.take_left, List.dropLast_concat]

/-- A text without a hyphen. -/
theorem splitLast_of_not_mem {digits : List Char} (h : '-' ∉ digits) :
    splitLast digits = ([], digits) := by
  have hafter : (digits.reverse.takeWhile (· != '-')).reverse = digits := by
    rw [List.takeWhile_eq_self_iff.2 fun c hc => bne_iff_ne.2 ?_, List.reverse_reverse]
    rintro rfl
    exact h (List.mem_reverse.1 hc)
  unfold splitLast
  simp only [hafter]
  rw [Nat.sub_self]
  rfl

/-- The last hyphen stands before the digits. -/
theorem splitLast_encode (label : List Char) :
    splitLast (encode label) = (label.filter isPlain, digitsFor label) := by
  have hhyphen : '-' ∉ digitsFor label := by
    intro hmem
    obtain ⟨n, hn⟩ := Option.isSome_iff_exists.1 (isSome_digit?_of_mem_digitsFor hmem)
    exact (of_digit? hn).2 rfl
  rw [encode_eq]
  split
  · next hnil =>
    rw [List.isEmpty_iff.1 hnil]
    exact splitLast_of_not_mem hhyphen
  · rw [List.append_assoc]
    exact splitLast_append hhyphen

/-- The code points of a label ascend. -/
theorem pairwise_codesOf (label : List Char) : (codesOf label).Pairwise (· < ·) := by
  have hsorted : (codesOf label).Pairwise (fun a b => decide (a ≤ b) = true) :=
    List.pairwise_mergeSort (fun a b c hab hbc => by simp at *; omega)
      (fun a b => by simp; omega) _
  have hnodup : (codesOf label).Nodup :=
    (List.mergeSort_perm _ _).nodup_iff.2 (nodup_eraseDups _)
  refine (hsorted.and hnodup).imp fun {a b} h => ?_
  exact Nat.lt_of_le_of_ne (of_decide_eq_true h.1) h.2

/-- They are those beyond the plain letters. -/
theorem mem_codesOf {label : List Char} {code : Nat} :
    code ∈ codesOf label ↔ firstCode ≤ code ∧ ∃ c ∈ label, c.toNat = code := by
  rw [codesOf, List.mem_mergeSort, List.mem_eraseDups, List.mem_map]
  constructor
  · rintro ⟨c, hc, rfl⟩
    obtain ⟨hmem, hplain⟩ := List.mem_filter.1 hc
    exact ⟨by simpa [isPlain] using hplain, c, hmem, rfl⟩
  · rintro ⟨hle, c, hmem, rfl⟩
    exact ⟨c, List.mem_filter.2 ⟨hmem, by simpa [isPlain] using hle⟩, rfl⟩

/-- The label that is written is the one that is read, unless it is so long that a number could pass
    the limit. -/
theorem decode?_encode {label : List Char} (h : 0x110000 * label.length ≤ limit) :
    decode? (encode label) = some label := by
  have hstart : Follows { label := label.filter isPlain } { label := label.filter isPlain }
      { plainCount := (label.filter isPlain).length, count := (label.filter isPlain).length }
      firstCode [] label :=
    { read := rfl, between := rfl, bias := rfl, label := rfl, count := rfl
      plainCount := Nat.le_refl _, isFirst := (beq_self_eq_true _).symm, code_le := Nat.le_refl _
      distance := by rw [Nat.sub_self, Nat.zero_mul]; rfl }
  obtain ⟨d, hread, hposition, hlabel⟩ := hstart.insertAll (pairwise_codesOf label)
    (fun code hcode => (mem_codesOf.1 hcode).1)
    (fun c hc hle => mem_codesOf.2 ⟨hle, c, hc, rfl⟩)
    (fun code hcode => by
      obtain ⟨-, c, -, rfl⟩ := mem_codesOf.1 hcode
      have hvalid : c.toNat < 0xD800 ∨ (0xDFFF < c.toNat ∧ c.toNat < 0x110000) := c.valid
      exact Nat.le_trans (Nat.mul_le_mul_right _ (by omega)) h)
  have hdigits : (digitsFor label).foldlM Decoder.step { label := label.filter isPlain } = some d :=
    hread
  unfold decode?
  simp only [splitLast_encode, hdigits, hposition, hlabel]
  rfl

end Phrasebook.Url.Punycode

import Phrasebook.Text.Units

namespace Phrasebook.Text

/-!
# The order of names

Texts with the same 16-bit units are the same text, so the order of names is a linear one and a set
of names has only one ascending order.

* `charUnits_append_inj`, `units_inj`: units say which text they are the units of.
* `ofUnits?_eq_some_iff`, `UnitText.string?_eq_some_iff`: and which text that is.
* `unitsLe_total`, `unitsLe_trans`, `unitsLe_antisymm`: the order of units is linear, and so is the
  one of names.
* `pairwise_sortNames`, `sortNames_congr`: sorting orders names, and forgets the order they came in;
  different names come strictly ascending (`pairwise_lt_sortNames`).
* `findSome?_ascending`: the first find along an ascending list is the least one.
-/

/-! ### Units -/

/-- The units of a character that starts a text say which character it is. -/
theorem charUnits_append_inj {c d : Char} {s t : List Nat}
    (h : charUnits c ++ s = charUnits d ++ t) : c = d ∧ s = t := by
  have hc : c.toNat < 0xD800 ∨ (0xDFFF < c.toNat ∧ c.toNat < 0x110000) := c.valid
  have hd : d.toNat < 0xD800 ∨ (0xDFFF < d.toNat ∧ d.toNat < 0x110000) := d.valid
  have hnat : c.toNat = d.toNat ∧ s = t := by
    unfold charUnits at h
    -- no character of one unit has the value of the first of two
    by_cases hcn : c.toNat < 0x10000 <;> by_cases hdn : d.toNat < 0x10000 <;>
      simp only [hcn, hdn, if_true, if_false, List.cons_append, List.nil_append,
        List.cons.injEq] at h
    · exact h
    · omega
    · omega
    · exact ⟨by omega, h.2.2⟩
  exact ⟨Char.toNat_inj.1 hnat.1, hnat.2⟩

/-- Every character has a unit. -/
theorem charUnits_ne_nil (c : Char) : charUnits c ≠ [] := by
  simp only [charUnits]
  split <;> simp

/-- Units say which text they are the units of. -/
theorem units_inj {s t : List Char} (h : units s = units t) : s = t := by
  induction s generalizing t with
  | nil =>
    cases t with
    | nil => rfl
    | cons d t => exact absurd h.symm (by simp [charUnits_ne_nil])
  | cons c s ih =>
    cases t with
    | nil => exact absurd h (by simp [charUnits_ne_nil])
    | cons d t =>
      rw [units_cons, units_cons] at h
      obtain ⟨rfl, hrest⟩ := charUnits_append_inj h
      rw [ih hrest]

/-- A code point of a character is that of the character made of it. -/
theorem toNat_ofNat {n : Nat} (h : n.isValidChar) : (Char.ofNat n).toNat = n :=
  congrArg Char.toNat (dif_pos h)

/-- A character by itself has one unit. -/
theorem charUnits_ofNat {n : Nat} (h : standsAlone n = true) : charUnits (Char.ofNat n) = [n] := by
  have hn : n < 0xD800 ∨ (0xDFFF < n ∧ n < 0x10000) := by
    simpa [standsAlone] using h
  have hvalid : n.isValidChar := by
    rw [Nat.isValidChar]
    omega
  rw [charUnits, toNat_ofNat hvalid, if_pos (by omega)]

/-- Two halves of a pair are the units of one character. -/
theorem charUnits_pair {n m : Nat} (hn : 0xD800 ≤ n) (hn' : n < 0xDC00) (hm : 0xDC00 ≤ m)
    (hm' : m < 0xE000) :
    charUnits (Char.ofNat (0x10000 + (n - 0xD800) * 0x400 + (m - 0xDC00))) = [n, m] := by
  obtain ⟨value, hvalue⟩ : ∃ value, value = 0x10000 + (n - 0xD800) * 0x400 + (m - 0xDC00) :=
    ⟨_, rfl⟩
  have hvalid : value.isValidChar := by
    rw [Nat.isValidChar]
    omega
  have hfirst : 0xD800 + (value - 0x10000) / 0x400 = n := by omega
  have hsecond : 0xDC00 + (value - 0x10000) % 0x400 = m := by omega
  rw [← hvalue, charUnits, toNat_ofNat hvalid, if_neg (by omega), hfirst, hsecond]

/-- A text that units are read as has these units. -/
theorem units_of_ofUnits? {ns : List Nat} {s : List Char} (h : ofUnits? ns = some s) :
    units s = ns := by
  fun_induction ofUnits? ns generalizing s with
  | case1 => exact Option.some.inj h ▸ rfl
  | case2 n ns halone ih =>
    obtain ⟨t, ht, rfl⟩ := Option.map_eq_some_iff.1 h
    rw [units_cons, charUnits_ofNat halone, ih ht]
    rfl
  | case3 => exact absurd h (by simp)
  | case4 n _ m ns hpair ih =>
    obtain ⟨t, ht, rfl⟩ := Option.map_eq_some_iff.1 h
    obtain ⟨hn, hn', hm, hm'⟩ := hpair
    rw [units_cons, charUnits_pair hn hn' hm hm', ih ht]
    rfl
  | case5 => exact absurd h (by simp)

/-- A text is read back from its units. -/
theorem ofUnits?_units (s : List Char) : ofUnits? (units s) = some s := by
  induction s with
  | nil => rfl
  | cons c s ih =>
    have hc : c.toNat < 0xD800 ∨ (0xDFFF < c.toNat ∧ c.toNat < 0x110000) := c.valid
    rw [units_cons, charUnits]
    by_cases hbasic : c.toNat < 0x10000
    · have halone : standsAlone c.toNat = true := by
        simp only [standsAlone, Bool.or_eq_true, Bool.and_eq_true, decide_eq_true_eq]
        omega
      simp only [hbasic, if_true, List.cons_append, List.nil_append]
      rw [ofUnits?.eq_def]
      simp only [halone, if_true, ih, Option.map_some, Char.ofNat_toNat]
    · simp only [hbasic, if_false, List.cons_append, List.nil_append]
      have halone : ¬ standsAlone (0xD800 + (c.toNat - 0x10000) / 0x400) = true := by
        simp only [standsAlone, Bool.or_eq_true, Bool.and_eq_true, decide_eq_true_eq]
        omega
      have hvalue : 0x10000 + (0xD800 + (c.toNat - 0x10000) / 0x400 - 0xD800) * 0x400
          + (0xDC00 + (c.toNat - 0x10000) % 0x400 - 0xDC00) = c.toNat := by
        omega
      rw [ofUnits?.eq_def]
      simp only [halone, Bool.false_eq_true, if_false, hvalue, ih, Option.map_some,
        Char.ofNat_toNat]
      rw [if_pos (by omega)]

/-- Units are those of a text just where the text is read from them. -/
theorem ofUnits?_eq_some_iff {ns : List Nat} {s : List Char} :
    ofUnits? ns = some s ↔ units s = ns :=
  ⟨units_of_ofUnits?, fun h => h ▸ ofUnits?_units s⟩

/-! ### The order -/

/-- The first units decide unless they are the same. -/
theorem unitsLe_cons (m n : Nat) (ms ns : List Nat) :
    unitsLe (m :: ms) (n :: ns) = true ↔ m < n ∨ (m = n ∧ unitsLe ms ns = true) := by
  rw [unitsLe, Bool.or_eq_true, decide_eq_true_eq, Bool.and_eq_true, beq_iff_eq]

theorem unitsLe_total (ms ns : List Nat) : unitsLe ms ns = true ∨ unitsLe ns ms = true := by
  induction ms generalizing ns with
  | nil => exact Or.inl rfl
  | cons m ms ih =>
    cases ns with
    | nil => exact Or.inr rfl
    | cons n ns =>
      rw [unitsLe_cons, unitsLe_cons]
      rcases Nat.lt_trichotomy m n with hlt | heq | hlt
      · exact Or.inl (Or.inl hlt)
      · exact (ih ns).imp (fun h => Or.inr ⟨heq, h⟩) fun h => Or.inr ⟨heq.symm, h⟩
      · exact Or.inr (Or.inl hlt)

theorem unitsLe_trans {ks ms ns : List Nat} (h : unitsLe ks ms = true)
    (h' : unitsLe ms ns = true) : unitsLe ks ns = true := by
  induction ks generalizing ms ns with
  | nil => rfl
  | cons k ks ih =>
    cases ms with
    | nil => exact absurd h (by simp [unitsLe])
    | cons m ms =>
      cases ns with
      | nil => exact absurd h' (by simp [unitsLe])
      | cons n ns =>
        rw [unitsLe_cons] at h h' ⊢
        rcases h with h | ⟨rfl, h⟩
        · refine Or.inl ?_
          rcases h' with h' | ⟨rfl, -⟩ <;> omega
        · exact h'.imp_right fun h' => ⟨h'.1, ih h h'.2⟩

theorem unitsLe_antisymm {ms ns : List Nat} (h : unitsLe ms ns = true)
    (h' : unitsLe ns ms = true) : ms = ns := by
  induction ms generalizing ns with
  | nil =>
    cases ns with
    | nil => rfl
    | cons n ns => exact absurd h' (by simp [unitsLe])
  | cons m ms ih =>
    cases ns with
    | nil => exact absurd h (by simp [unitsLe])
    | cons n ns =>
      rw [unitsLe_cons] at h h'
      rcases h with h | ⟨rfl, h⟩
      · rcases h' with h' | ⟨rfl, -⟩ <;> omega
      · rcases h' with h' | ⟨-, h'⟩
        · omega
        · rw [ih h h']

/-- Of two different rows of units the lower one is less in the order of lists. -/
theorem lt_of_unitsLe {ms ns : List Nat} (h : unitsLe ms ns = true) (hne : ms ≠ ns) : ms < ns := by
  induction ms generalizing ns with
  | nil =>
    cases ns with
    | nil => exact absurd rfl hne
    | cons n ns => exact List.nil_lt_cons n ns
  | cons m ms ih =>
    cases ns with
    | nil => exact absurd h (by simp [unitsLe])
    | cons n ns =>
      rw [unitsLe_cons] at h
      rw [List.cons_lt_cons_iff]
      rcases h with hlt | ⟨rfl, hle⟩
      · exact Or.inl hlt
      · exact Or.inr ⟨rfl, ih hle fun heq => hne (congrArg (m :: ·) heq)⟩

theorem nameLe_total (a b : String) : (nameLe a b || nameLe b a) = true := by
  rw [Bool.or_eq_true]
  exact unitsLe_total _ _

theorem nameLe_trans (a b c : String) (hab : nameLe a b = true) (hbc : nameLe b c = true) :
    nameLe a c = true :=
  unitsLe_trans hab hbc

theorem nameLe_antisymm {a b : String} (hab : nameLe a b = true) (hba : nameLe b a = true) :
    a = b :=
  String.toList_inj.1 (units_inj (unitsLe_antisymm hab hba))

theorem nameLe_refl (a : String) : nameLe a a = true := by
  simpa using nameLe_total a a

/-! ### Sorting -/

/-- Sorting neither adds nor loses a name. -/
theorem mem_sortNames {name : String} {names : List String} :
    name ∈ sortNames names ↔ name ∈ names :=
  List.mem_mergeSort

/-- Sorting repeats no name. -/
theorem sortNames_perm (names : List String) : (sortNames names).Perm names :=
  List.mergeSort_perm names nameLe

/-- Sorted names are in order. -/
theorem pairwise_sortNames (names : List String) :
    (sortNames names).Pairwise fun a b => nameLe a b = true :=
  List.pairwise_mergeSort nameLe_trans nameLe_total names

/-- Names that are all different are sorted into a strictly ascending row. -/
theorem pairwise_lt_sortNames {names : List String} (h : names.Nodup) :
    (sortNames names).Pairwise fun a b => units a.toList < units b.toList := by
  have hnodup : (sortNames names).Nodup := (sortNames_perm names).nodup_iff.2 h
  refine ((pairwise_sortNames names).and hnodup).imp ?_
  rintro a b ⟨hle, hne⟩
  exact lt_of_unitsLe hle fun heq => hne (String.toList_inj.1 (units_inj heq))

/-- The order in which names come in does not matter. -/
theorem sortNames_congr {names names' : List String} (h : names.Perm names') :
    sortNames names = sortNames names' := by
  have hperm : (sortNames names).Perm (sortNames names') :=
    (sortNames_perm names).trans (h.trans (sortNames_perm names').symm)
  exact hperm.eq_of_pairwise (fun a b _ _ hab hba => nameLe_antisymm hab hba)
    (pairwise_sortNames names) (pairwise_sortNames names')

/-! ### Finds along a list -/

/-- Along a list in the order of an antisymmetric relation, the first find is the least one. -/
theorem findSome?_least {r : ν → ν → Prop} (hrefl : ∀ a, r a a)
    (hanti : ∀ a b, r a b → r b a → a = b) {names : List ν} (h : names.Pairwise r)
    (g : ν → Option α) (x : α) :
    names.findSome? g = some x ↔
      ∃ name ∈ names, g name = some x ∧ ∀ other ∈ names, g other ≠ none → r name other := by
  induction names with
  | nil => simp
  | cons name names ih =>
    obtain ⟨hhead, htail⟩ := List.pairwise_cons.1 h
    rw [List.findSome?_cons]
    cases hname : g name with
    | some y =>
      -- the head is found, and no later element is less
      constructor
      · intro hy
        refine ⟨name, List.mem_cons_self, by rw [hname]; exact hy, fun other hother _ => ?_⟩
        rcases List.mem_cons.1 hother with rfl | hother
        · exact hrefl other
        · exact hhead other hother
      · rintro ⟨least, hmem, hleast, hall⟩
        have hle : r least name := hall name List.mem_cons_self (by simp [hname])
        rcases List.mem_cons.1 hmem with rfl | hmem
        · rw [← hname, hleast]
        · rw [hanti name least (hhead least hmem) hle, hleast] at hname
          exact hname.symm
    | none =>
      -- the head counts neither for the find nor as a least element
      rw [ih htail]
      constructor
      · rintro ⟨least, hmem, hleast, hall⟩
        refine ⟨least, List.mem_cons_of_mem name hmem, hleast, fun other hother hsome => ?_⟩
        rcases List.mem_cons.1 hother with rfl | hother
        · exact absurd hname hsome
        · exact hall other hother hsome
      · rintro ⟨least, hmem, hleast, hall⟩
        refine ⟨least, ?_, hleast,
          fun other hother => hall other (List.mem_cons_of_mem name hother)⟩
        rcases List.mem_cons.1 hmem with rfl | hmem
        · rw [hname] at hleast
          exact absurd hleast (by simp)
        · exact hmem

/-- The first find along sorted names is the one at the least name. -/
theorem findSome?_sortNames (names : List String) (g : String → Option α) (x : α) :
    (sortNames names).findSome? g = some x ↔
      ∃ name ∈ sortNames names, g name = some x ∧
        ∀ other ∈ sortNames names, g other ≠ none → nameLe name other = true :=
  findSome?_least nameLe_refl (fun _ _ => nameLe_antisymm) (pairwise_sortNames names) g x

/-- The first find along sorted names from their end is the one at the greatest name. -/
theorem findSome?_reverse_sortNames (names : List String) (g : String → Option α) (x : α) :
    (sortNames names).reverse.findSome? g = some x ↔
      ∃ name ∈ sortNames names, g name = some x ∧
        ∀ other ∈ sortNames names, g other ≠ none → nameLe other name = true := by
  have hdescending : (sortNames names).reverse.Pairwise fun a b => nameLe b a = true :=
    List.pairwise_reverse.2 (pairwise_sortNames names)
  rw [findSome?_least nameLe_refl (fun a b hab hba => nameLe_antisymm hba hab) hdescending]
  simp only [List.mem_reverse]

end Phrasebook.Text

namespace Phrasebook.UnitText

/-! ### Texts given by their units -/

/-- A string is the one with given units just where they are its units. -/
theorem string?_eq_some_iff {t : UnitText} {s : String} : t.string? = some s ↔ ofString s = t := by
  obtain ⟨ns⟩ := t
  constructor
  · intro h
    obtain ⟨cs, hcs, rfl⟩ := Option.map_eq_some_iff.1 h
    rw [ofString, String.toList_ofList, Text.units_of_ofUnits? hcs]
  · intro h
    have hunits : Text.units s.toList = ns := congrArg units h
    rw [string?, Text.ofUnits?_eq_some_iff.2 hunits, Option.map_some, String.ofList_toList]

/-- The text of a string is that of the string. -/
@[simp] theorem string?_ofString (s : String) : (ofString s).string? = some s :=
  string?_eq_some_iff.2 rfl

/-- The texts in which no half of a pair stands alone are those of strings. -/
theorem isWhole_iff {t : UnitText} : t.IsWhole ↔ ∃ s, ofString s = t := by
  rw [IsWhole, Option.isSome_iff_exists]
  simp only [string?_eq_some_iff]

end Phrasebook.UnitText

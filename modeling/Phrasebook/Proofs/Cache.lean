import Mathlib.Data.List.Induction
import Phrasebook.Formatter
import Phrasebook.Proofs.Dict

namespace Phrasebook

/-!
# What a template cache holds

A cache of capacity `n` holds the `n` templates used last, whatever it was asked for before.  A use
gives the very reading of the use before it if fewer than `n` other templates were used in between;
malformed templates do not count.

* `Cache.Faithful`: every template kept is the one that its source writes.
* `Cache.Call`, `Cache.run`: what a formatter is asked for, and the cache after a history of it.
* `Cache.recent`: the templates of a history, the one used last in front.
* `Cache.Keeps`, `Cache.keeps_run`: the invariant of a history; `Cache.Keeps.step` is one call.
* `Cache.GaveBefore`, `Cache.gaveBefore_iff`: which readings are given again.
* `Cache.run_spec`: what a cache holds and gives after a history.
-/

namespace Cache

/-! ### One use -/

/-- Every template that is kept is the one that its source writes. -/
def Faithful (c : Cache) : Prop :=
  ∀ e ∈ c.entries, Template.parse e.1 = .ok e.2.template

theorem faithful_empty (n : Nat) : Faithful { capacity := n } :=
  fun _ he => absurd he List.not_mem_nil

/-- Entries that are those of a faithful cache, but for a right one. -/
theorem Faithful.of_mem {c c' : Cache} (h : c.Faithful) {source : String} {r : Reading}
    (hr : Template.parse source = .ok r.template)
    (hc' : ∀ e ∈ c'.entries, e = (source, r) ∨ e ∈ c.entries) : c'.Faithful := by
  intro e he
  rcases hc' e he with rfl | he
  · exact hr
  · exact h e he

/-- A source is found, or else it is read, or refused. -/
theorem use_cases (c : Cache) (source : String) :
    (∃ r, c.get? source = some r ∧ c.use source
      = .ok (r, { c with entries := (source, r) :: dropEntry source c.entries })) ∨
    (∃ t, c.get? source = none ∧ Template.parse source = .ok t ∧ c.use source
      = .ok (⟨c.readings, t⟩, { c with
          entries := ((source, ⟨c.readings, t⟩) :: c.entries).take c.capacity
          readings := c.readings + 1 })) ∨
    (∃ f, c.get? source = none ∧ Template.parse source = .error f ∧ c.use source = .error f) := by
  cases hget : c.get? source with
  | some r => exact Or.inl ⟨r, rfl, by rw [use, useRules.found hget]⟩
  | none =>
    cases hparse : Template.parse source with
    | ok t =>
      refine Or.inr (Or.inl ⟨t, rfl, rfl, ?_⟩)
      rw [use, useRules.missing hget, hparse]
      simp only [useRules.added hget]
    | error f => exact Or.inr (Or.inr ⟨f, rfl, rfl, by rw [use, useRules.missing hget, hparse]⟩)

/-- What is found is the template that the source writes. -/
theorem Faithful.parse_of_get? {c : Cache} (h : c.Faithful) {source : String} {r : Reading}
    (hget : c.get? source = some r) : Template.parse source = .ok r.template :=
  h (source, r) (mem_of_lookupEntry hget)

/-- A template that a faithful cache gives is the one that its source writes. -/
theorem Faithful.use {c c' : Cache} (h : c.Faithful) {source : String} {r : Reading}
    (huse : c.use source = .ok (r, c')) :
    Template.parse source = .ok r.template ∧ c'.Faithful := by
  rcases c.use_cases source with ⟨r', hget, hr'⟩ | ⟨t, -, hparse, ht⟩ | ⟨f, -, -, hf⟩
  · -- what is found was read from this source before
    rw [hr'] at huse
    obtain ⟨rfl, rfl⟩ := Prod.mk.inj (Except.ok.inj huse)
    refine ⟨h.parse_of_get? hget, h.of_mem (h.parse_of_get? hget) fun e he => ?_⟩
    exact (List.mem_cons.1 he).imp_right fun he => (List.mem_filter.1 he).1
  · rw [ht] at huse
    obtain ⟨rfl, rfl⟩ := Prod.mk.inj (Except.ok.inj huse)
    exact ⟨hparse, h.of_mem hparse fun e he => List.mem_cons.1 (List.mem_of_mem_take he)⟩
  · exact absurd (hf.symm.trans huse) (by simp)

/-- A cache refuses only what reading refuses, and for the same fault. -/
theorem parse_of_use_error {c : Cache} {source : String} {f : TemplateFault}
    (huse : c.use source = .error f) : Template.parse source = .error f := by
  rcases c.use_cases source with ⟨r, -, hr⟩ | ⟨t, -, -, ht⟩ | ⟨f', -, hparse, hf⟩
  · exact absurd (hr.symm.trans huse) (by simp)
  · exact absurd (ht.symm.trans huse) (by simp)
  · rw [hparse, Except.error.inj (hf.symm.trans huse)]

/-! ### A cache that fits -/

/-- No more templates are kept than there are places. -/
def Fits (c : Cache) : Prop :=
  c.entries.length ≤ c.capacity

/-- The cache with a reading in front, as far as there are places. -/
def touch (c : Cache) (source : String) (r : Reading) : Cache :=
  { c with entries := ((source, r) :: dropEntry source c.entries).take c.capacity }

/-- A right reading in front leaves every template right. -/
theorem Faithful.touch {c : Cache} (h : c.Faithful) {source : String} {r : Reading}
    (hr : Template.parse source = .ok r.template) : (c.touch source r).Faithful := by
  refine h.of_mem hr fun e he => ?_
  exact (List.mem_cons.1 (List.mem_of_mem_take he)).imp_right fun he => (List.mem_filter.1 he).1

/-- A reading that is found comes to the front of a cache that fits; none has to go. -/
theorem Fits.touch_of_get? {c : Cache} (h : c.Fits) {source : String} {r : Reading}
    (hget : c.get? source = some r) :
    c.touch source r = { c with entries := (source, r) :: dropEntry source c.entries } := by
  have hlt : (dropEntry source c.entries).length < c.entries.length := by
    refine List.length_filter_lt_length_iff_exists.2 ⟨(source, r), mem_of_lookupEntry hget, ?_⟩
    simp
  rw [Cache.touch, List.take_of_length_le]
  exact Nat.le_trans (Nat.succ_le_of_lt hlt) h

/-- A new reading comes to the front; there is no other one to take away. -/
theorem touch_of_get?_eq_none {c : Cache} {source : String} (hget : c.get? source = none)
    (r : Reading) :
    c.touch source r = { c with entries := ((source, r) :: c.entries).take c.capacity } := by
  rw [touch, dropEntry_of_lookupEntry hget]

/-! ### Histories -/

/-- What a formatter with a cache is asked for. -/
inductive Call
  /-- for the template of a source -/
  | parse (source : String)
  /-- for the message of a source in a context -/
  | format (l : Locale) (source : String) (context : Context)

/-- The source of a call. -/
def Call.source : Call → String
  | parse source | format _ source _ => source

/-- The cache after a call. -/
def step (c : Cache) : Call → Cache
  | .parse source =>
    match c.use source with
    | .ok (_, c') => c'
    | .error _ => c
  | .format l source context =>
    match ((Formatter.cached c).format l source context).2 with
    | .cached c' => c'
    | .custom _ => c

/-- A cache of capacity `n` after a history. -/
def run (n : Nat) (calls : List Call) : Cache :=
  calls.foldl step { capacity := n }

/-- The reading that a cache gives for a source. -/
def reading? (c : Cache) (source : String) : Option Reading :=
  (c.use source).toOption.map Prod.fst

/-- The templates that a history used, in order.  A malformed text is none. -/
def used (calls : List Call) : List String :=
  (calls.map Call.source).filter fun source => (Template.parse source).isOk

/-- The templates that a history used, each once, the one used last in front. -/
def recent (calls : List Call) : List String :=
  (used calls).reverse.eraseDups

/-- Formatting is a use, whatever it comes to. -/
theorem format_snd (c : Cache) (l : Locale) (source : String) (context : Context) :
    ((Formatter.cached c).format l source context).2 = .cached (c.step (.parse source)) := by
  cases huse : c.use source <;> simp only [Formatter.format, step, huse]

/-- To format is to parse, as far as the cache goes. -/
theorem step_eq (c : Cache) (call : Call) : c.step call = c.step (.parse call.source) := by
  cases call with
  | parse source => rfl
  | format l source context =>
    show (match ((Formatter.cached c).format l source context).2 with
      | .cached c' => c'
      | .custom _ => c) = c.step (.parse source)
    rw [format_snd]

/-- A call of a cache that fits brings a reading to the front, which was kept or is new, or it is
    refused. -/
theorem Fits.step_cases {c : Cache} (h : c.Fits) (call : Call) :
    (∃ r m, c.reading? call.source = some r ∧
      c.step call = { c.touch call.source r with readings := m } ∧
      ((c.get? call.source = some r ∧ m = c.readings) ∨
        (Template.parse call.source = .ok r.template ∧ r.serial = c.readings ∧
          m = c.readings + 1))) ∨
    (∃ f, Template.parse call.source = .error f ∧ c.reading? call.source = none ∧
      c.step call = c) := by
  rw [step_eq, reading?]
  rcases c.use_cases call.source with
    ⟨r, hget, huse⟩ | ⟨t, hget, hparse, huse⟩ | ⟨f, -, hparse, huse⟩
  · refine Or.inl ⟨r, c.readings, by rw [huse]; rfl, ?_, Or.inl ⟨hget, rfl⟩⟩
    rw [step, huse, h.touch_of_get? hget]
  · refine Or.inl ⟨⟨c.readings, t⟩, c.readings + 1, by rw [huse]; rfl, ?_,
      Or.inr ⟨hparse, rfl, rfl⟩⟩
    rw [step, huse, touch_of_get?_eq_none hget]
  · exact Or.inr ⟨f, hparse, by rw [huse]; rfl, by rw [step, huse]⟩

@[simp] theorem run_nil (n : Nat) : run n [] = { capacity := n } := rfl

/-- The last call of a history comes last. -/
@[simp] theorem run_concat (n : Nat) (calls : List Call) (call : Call) :
    run n (calls ++ [call]) = (run n calls).step call :=
  List.foldl_append

/-! ### The templates used last -/

section Recent

variable {calls : List Call} {call : Call}

theorem used_append (calls after : List Call) :
    used (calls ++ after) = used calls ++ used after := by
  rw [used, List.map_append, List.filter_append]
  rfl

theorem used_singleton {t : Template} (h : Template.parse call.source = .ok t) :
    used [call] = [call.source] :=
  List.filter_cons_of_pos (by rw [h]; rfl)

/-- A template that is used comes to the front. -/
theorem recent_concat {t : Template} (h : Template.parse call.source = .ok t) :
    recent (calls ++ [call]) = call.source :: (recent calls).filter (· ≠ call.source) := by
  have hfilter : (fun s => !s == call.source) = fun s => decide (s ≠ call.source) := by
    funext s
    by_cases hs : s = call.source <;> simp [hs]
  rw [recent, used_append, used_singleton h, List.reverse_append, List.reverse_singleton,
    List.singleton_append, List.eraseDups_cons, eraseDups_filter, hfilter]
  rfl

/-- A malformed text changes nothing. -/
theorem recent_concat_of_error {f : TemplateFault} (h : Template.parse call.source = .error f) :
    recent (calls ++ [call]) = recent calls := by
  have hnone : used [call] = [] := List.filter_cons_of_neg (by rw [h]; exact Bool.false_ne_true)
  rw [recent, used_append, hnone, List.append_nil]
  rfl

/-- No template is among the recent ones twice. -/
theorem nodup_recent (calls : List Call) : (recent calls).Nodup := by
  induction calls using List.reverseRecOn with
  | nil => exact List.nodup_nil
  | append_singleton calls call ih =>
    cases hparse : Template.parse call.source with
    | ok t =>
      rw [recent_concat hparse, List.nodup_cons]
      exact ⟨by simp, ih.filter _⟩
    | error f =>
      rw [recent_concat_of_error hparse]
      exact ih

/-- The recent templates are the sources of the history that are templates. -/
theorem mem_recent {source : String} :
    source ∈ recent calls ↔
      (∃ call ∈ calls, call.source = source) ∧ ∃ t, Template.parse source = .ok t := by
  have hok : (Template.parse source).isOk = true ↔ ∃ t, Template.parse source = .ok t := by
    cases Template.parse source <;> simp [Except.isOk, Except.toBool]
  rw [recent, List.mem_eraseDups, List.mem_reverse, used, List.mem_filter, List.mem_map, hok]

/-- The templates used after the last use of one stand before it. -/
theorem mem_take_recent_iff {t : Template} (h : Template.parse call.source = .ok t)
    (before : List Call) {after : List Call} (hafter : ∀ later ∈ after, later.source ≠ call.source)
    (n : Nat) :
    call.source ∈ (recent (before ++ call :: after)).take n ↔ (recent after).length < n := by
  have hnot : call.source ∉ recent after := by
    intro hmem
    obtain ⟨⟨later, hlater, heq⟩, -⟩ := mem_recent.1 hmem
    exact hafter later hlater heq
  have hfresh : call.source ∉ (used after).reverse := fun hmem => hnot (List.mem_eraseDups.2 hmem)
  -- its last use stands right behind the templates used after that
  obtain ⟨rest, hsplit⟩ : ∃ rest,
      recent (before ++ call :: after) = recent after ++ call.source :: rest := by
    have happend : before ++ call :: after = before ++ [call] ++ after := by simp
    rw [recent, happend, used_append, used_append, used_singleton h, List.reverse_append,
      List.reverse_append, List.reverse_singleton, List.singleton_append, List.eraseDups_append,
      List.removeAll, List.filter_cons_of_pos (by simpa using hfresh), List.eraseDups_cons]
    exact ⟨_, rfl⟩
  rw [hsplit, List.take_append, List.mem_append]
  constructor
  · rintro (hmem | hmem)
    · exact absurd (List.mem_of_mem_take hmem) hnot
    · by_contra hle
      have hzero : n - (recent after).length = 0 := by omega
      rw [hzero] at hmem
      exact List.not_mem_nil hmem
  · intro hlt
    obtain ⟨m, hm⟩ : ∃ m, n - (recent after).length = m + 1 :=
      ⟨n - (recent after).length - 1, by omega⟩
    rw [hm, List.take_succ_cons]
    exact Or.inr List.mem_cons_self

/-- Without one of its elements, a row without repetitions is shorter by one place at most. -/
theorem take_filter_ne {l : List String} (h : l.Nodup) (s : String) (m : Nat) :
    ((l.take (m + 1)).filter (· ≠ s)).take m = (l.filter (· ≠ s)).take m := by
  induction l generalizing m with
  | nil => rfl
  | cons a l ih =>
    obtain ⟨ha, hl⟩ := List.nodup_cons.1 h
    rw [List.take_succ_cons]
    by_cases has : a = s
    · -- the element to leave out does not come again
      have hall : ∀ x ∈ l, decide (x ≠ s) = true := by
        intro x hx
        rw [decide_eq_true_eq]
        rintro rfl
        exact ha (has ▸ hx)
      rw [List.filter_cons_of_neg (by simp [has]), List.filter_cons_of_neg (by simp [has]),
        List.filter_eq_self.2 hall,
        List.filter_eq_self.2 fun x hx => hall x (List.mem_of_mem_take hx), List.take_take,
        Nat.min_self]
    · rw [List.filter_cons_of_pos (by simp [has]), List.filter_cons_of_pos (by simp [has])]
      cases m with
      | zero => rfl
      | succ m => rw [List.take_succ_cons, List.take_succ_cons, ih hl]

end Recent

/-! ### The invariant -/

/-- A cache of capacity `n` keeps the `n` templates that a history used last, each with a reading of
    its own. -/
structure Keeps (c : Cache) (n : Nat) (calls : List Call) : Prop where
  capacity : c.capacity = n
  keys : c.entries.map Prod.fst = (recent calls).take n
  faithful : c.Faithful
  numbered : ∀ e ∈ c.entries, e.2.serial < c.readings

section Keeps

variable {c : Cache} {n : Nat} {calls : List Call}

/-- No source is kept twice. -/
theorem Keeps.nodup (h : c.Keeps n calls) : (c.entries.map Prod.fst).Nodup := by
  rw [h.keys]
  exact (nodup_recent calls).sublist (List.take_sublist _ _)

/-- A cache that keeps the templates used last fits. -/
theorem Keeps.fits (h : c.Keeps n calls) : c.Fits := by
  have hlength := congrArg List.length h.keys
  rw [List.length_map, List.length_take] at hlength
  rw [Fits, h.capacity, hlength]
  exact Nat.min_le_left _ _

/-- A source is found just where it is among the templates used last. -/
theorem Keeps.isSome_get? (h : c.Keeps n calls) (source : String) :
    (c.get? source).isSome = true ↔ source ∈ (recent calls).take n := by
  rw [← h.keys]
  exact lookupEntry_isSome source c.entries

/-- A reading that is moved or put to the front. -/
theorem Keeps.touch (h : c.Keeps n calls) {call : Call} {r : Reading} {m : Nat}
    (hr : Template.parse call.source = .ok r.template) (hm : c.readings ≤ m)
    (hserial : r.serial < m) :
    Keeps { c.touch call.source r with readings := m } n (calls ++ [call]) where
  capacity := h.capacity
  keys := by
    -- the source is taken out of the places that there are, not out of the whole history
    show (((call.source, r) :: dropEntry call.source c.entries).take c.capacity).map Prod.fst = _
    rw [List.map_take, List.map_cons, keys_dropEntry, h.keys, h.capacity, recent_concat hr]
    cases n with
    | zero => rfl
    | succ n => rw [List.take_succ_cons, List.take_succ_cons, take_filter_ne (nodup_recent calls)]
  faithful := h.faithful.touch hr
  numbered := by
    intro e he
    rcases List.mem_cons.1 (List.mem_of_mem_take he) with rfl | he
    · exact hserial
    · exact Nat.lt_of_lt_of_le (h.numbered e (List.mem_filter.1 he).1) hm

/-- One call. -/
theorem Keeps.step (h : c.Keeps n calls) (call : Call) :
    (c.step call).Keeps n (calls ++ [call]) := by
  rcases h.fits.step_cases call with
    ⟨r, m, -, hstep, ⟨hget, rfl⟩ | ⟨hparse, hserial, rfl⟩⟩ | ⟨f, hparse, -, hstep⟩
  · have hserial : r.serial < c.readings := h.numbered _ (mem_of_lookupEntry hget)
    rw [hstep]
    exact h.touch (h.faithful.parse_of_get? hget) (Nat.le_refl _) hserial
  · rw [hstep]
    exact h.touch hparse (Nat.le_succ _) (by omega)
  · rw [hstep]
    exact { h with keys := by rw [recent_concat_of_error hparse]; exact h.keys }

end Keeps

/-- Every history. -/
theorem keeps_run (n : Nat) (calls : List Call) : (run n calls).Keeps n calls := by
  induction calls using List.reverseRecOn with
  | nil =>
    exact
      { capacity := rfl
        keys := List.take_nil.symm
        faithful := faithful_empty n
        numbered := fun _ he => absurd he List.not_mem_nil }
  | append_singleton calls call ih =>
    rw [run_concat]
    exact ih.step call

/-! ### Readings that are given again -/

/-- A call of a history for a source gave this reading. -/
def GaveBefore (n : Nat) (calls : List Call) (source : String) (r : Reading) : Prop :=
  ∃ before call after, calls = before ++ call :: after ∧ call.source = source ∧
    (run n before).reading? source = some r

/-- Fewer than `n` other templates were used since a history used a source for the last time. -/
def UsedLately (n : Nat) (calls : List Call) (source : String) : Prop :=
  ∃ before call after, calls = before ++ call :: after ∧ call.source = source ∧
    (∀ later ∈ after, later.source ≠ source) ∧ (recent after).length < n

/-- A source that is used is used for a last time. -/
theorem exists_last {calls : List Call} {source : String}
    (h : ∃ call ∈ calls, call.source = source) :
    ∃ before call after, calls = before ++ call :: after ∧ call.source = source ∧
      ∀ later ∈ after, later.source ≠ source := by
  induction calls with
  | nil => simp at h
  | cons first calls ih =>
    by_cases hlater : ∃ call ∈ calls, call.source = source
    · obtain ⟨before, call, after, rfl, hcall, hafter⟩ := ih hlater
      exact ⟨first :: before, call, after, rfl, hcall, hafter⟩
    · obtain ⟨call, hmem, hcall⟩ := h
      rcases List.mem_cons.1 hmem with rfl | hmem
      · exact ⟨[], call, calls, rfl, hcall, fun later hl heq => hlater ⟨later, hl, heq⟩⟩
      · exact absurd ⟨call, hmem, hcall⟩ hlater

/-- A reading that is found is the one that is given. -/
theorem reading?_of_get? {c : Cache} {source : String} {r : Reading}
    (h : c.get? source = some r) : c.reading? source = some r := by
  rw [reading?, use, useRules.found h]
  rfl

/-- A reading is given of every template, and of nothing else. -/
theorem Keeps.exists_reading?_iff {c : Cache} {n : Nat} {calls : List Call}
    (h : c.Keeps n calls) (source : String) (t : Template) :
    (∃ r, c.reading? source = some r ∧ r.template = t) ↔ Template.parse source = .ok t := by
  constructor
  · rintro ⟨r, hr, rfl⟩
    rcases h.fits.step_cases (.parse source) with
      ⟨r', m, hr', -, ⟨hget, -⟩ | ⟨hparse, -, -⟩⟩ | ⟨f, -, hnone, -⟩
    · obtain rfl : r' = r := Option.some.inj (hr'.symm.trans hr)
      exact h.faithful.parse_of_get? hget
    · obtain rfl : r' = r := Option.some.inj (hr'.symm.trans hr)
      exact hparse
    · exact absurd (hnone.symm.trans hr) (by simp)
  · intro ht
    rcases h.fits.step_cases (.parse source) with
      ⟨r, m, hr, -, ⟨hget, -⟩ | ⟨hparse, -, -⟩⟩ | ⟨f, hparse, -, -⟩
    · exact ⟨r, hr, Except.ok.inj ((h.faithful.parse_of_get? hget).symm.trans ht)⟩
    · exact ⟨r, hr, Except.ok.inj (hparse.symm.trans ht)⟩
    · exact absurd (hparse.symm.trans ht) (by simp)

/-- What is given is there after the call, if the cache has room for it, and has one of the numbers
    that are taken. -/
theorem get?_step_self {c : Cache} {n : Nat} {calls : List Call} (h : c.Keeps n calls) {call : Call}
    {r : Reading} (hr : c.reading? call.source = some r) :
    (0 < n → (c.step call).get? call.source = some r) ∧ r.serial < (c.step call).readings := by
  rcases h.fits.step_cases call with ⟨r', m, hr', hstep, hkept⟩ | ⟨f, -, hnone, -⟩
  · obtain rfl : r' = r := Option.some.inj (hr'.symm.trans hr)
    rw [hstep]
    constructor
    · intro hpos
      obtain ⟨k, rfl⟩ := Nat.exists_eq_add_of_lt hpos
      show lookupEntry call.source
        (((call.source, r') :: dropEntry call.source c.entries).take c.capacity) = some r'
      rw [h.capacity, Nat.zero_add, List.take_succ_cons, lookupEntry, if_pos rfl]
    · show r'.serial < m
      rcases hkept with ⟨hget, rfl⟩ | ⟨-, hserial, rfl⟩
      · exact h.numbered _ (mem_of_lookupEntry hget)
      · omega
  · exact absurd (hnone.symm.trans hr) (by simp)

/-- A call for another source does not change what is there, though it may drop it. -/
theorem get?_of_get?_step {c : Cache} {n : Nat} {calls : List Call} (h : c.Keeps n calls)
    {call : Call} {source : String} (hne : call.source ≠ source) {r : Reading}
    (hget : (c.step call).get? source = some r) : c.get? source = some r := by
  rcases h.fits.step_cases call with ⟨r', m, -, hstep, -⟩ | ⟨f, -, -, hstep⟩
  · rw [hstep] at hget
    rcases List.mem_cons.1 (List.mem_of_mem_take (mem_of_lookupEntry hget)) with heq | hmem
    · exact absurd (Prod.mk.inj heq).1.symm hne
    · exact (lookupEntry_eq_some_iff h.nodup source r).2 (List.mem_filter.1 hmem).1
  · rwa [hstep] at hget

/-- What is found after further calls for other sources was found before them. -/
theorem get?_of_get?_run {n : Nat} (calls : List Call) {after : List Call} {source : String}
    (hafter : ∀ later ∈ after, later.source ≠ source) {r : Reading}
    (hget : (run n (calls ++ after)).get? source = some r) :
    (run n calls).get? source = some r := by
  induction after using List.reverseRecOn with
  | nil => rwa [List.append_nil] at hget
  | append_singleton after call ih =>
    rw [← List.append_assoc, run_concat] at hget
    refine ih (fun later hl => hafter later (by simp [hl])) ?_
    exact get?_of_get?_step (keeps_run n _) (hafter call (by simp)) hget

/-- A call takes no number back. -/
theorem Fits.readings_le_step {c : Cache} (h : c.Fits) (call : Call) :
    c.readings ≤ (c.step call).readings := by
  rcases h.step_cases call with ⟨r, m, -, hstep, hkept⟩ | ⟨f, -, -, hstep⟩
  · have hm : (c.step call).readings = m := by rw [hstep]
    omega
  · exact Nat.le_of_eq (congrArg readings hstep.symm)

/-- Further calls take no number back. -/
theorem readings_le_run (n : Nat) (calls after : List Call) :
    (run n calls).readings ≤ (run n (calls ++ after)).readings := by
  induction after using List.reverseRecOn with
  | nil => exact Nat.le_of_eq (congrArg (fun calls => (run n calls).readings) (by simp))
  | append_singleton after call ih =>
    rw [← List.append_assoc, run_concat]
    exact Nat.le_trans ih ((keeps_run n _).fits.readings_le_step call)

/-- The readings given so far have numbers that are taken. -/
theorem GaveBefore.serial_lt {n : Nat} {calls : List Call} {source : String} {r : Reading}
    (h : GaveBefore n calls source r) : r.serial < (run n calls).readings := by
  obtain ⟨before, call, after, rfl, rfl, hr⟩ := h
  have hlt := (get?_step_self (keeps_run n before) hr).2
  rw [← run_concat] at hlt
  have hle := readings_le_run n (before ++ [call]) after
  rw [List.append_assoc, List.singleton_append] at hle
  omega

/-- The reading that is given was given before, for that source, if and only if fewer than `n` other
    templates were used since the last use of the source. -/
theorem gaveBefore_iff {n : Nat} {calls : List Call} {source : String} {r : Reading}
    (hr : (run n calls).reading? source = some r) :
    GaveBefore n calls source r ↔ UsedLately n calls source := by
  have hkeeps := keeps_run n calls
  constructor
  · intro hgave
    have hserial := hgave.serial_lt
    -- a new reading would have a new number
    have hget : (run n calls).get? source = some r := by
      rcases hkeeps.fits.step_cases (.parse source) with
        ⟨r', m, hr', -, ⟨hget, -⟩ | ⟨-, hnew, -⟩⟩ | ⟨f, -, hnone, -⟩
      · exact hget.trans (hr'.symm.trans hr)
      · obtain rfl : r' = r := Option.some.inj (hr'.symm.trans hr)
        exact absurd hnew (Nat.ne_of_lt hserial)
      · exact absurd (hnone.symm.trans hr) (by simp)
    have hmem := (hkeeps.isSome_get? source).1 (by rw [hget]; rfl)
    obtain ⟨hused, t, hparse⟩ := mem_recent.1 (List.mem_of_mem_take hmem)
    obtain ⟨before, call, after, rfl, rfl, hafter⟩ := exists_last hused
    exact ⟨before, call, after, rfl, rfl, hafter,
      (mem_take_recent_iff hparse before hafter n).1 hmem⟩
  · rintro ⟨before, call, after, rfl, rfl, hafter, hlt⟩
    have hparse := (hkeeps.exists_reading?_iff call.source r.template).1 ⟨r, hr, rfl⟩
    have hmem := (mem_take_recent_iff hparse before hafter n).2 hlt
    obtain ⟨r', hget⟩ := Option.isSome_iff_exists.1 ((hkeeps.isSome_get? call.source).2 hmem)
    obtain rfl : r' = r := Option.some.inj ((reading?_of_get? hget).symm.trans hr)
    -- what is there now was there after the last use of the source already
    have hlast : ((run n before).step call).get? call.source = some r' := by
      rw [← run_concat]
      refine get?_of_get?_run (before ++ [call]) hafter ?_
      rw [List.append_assoc, List.singleton_append]
      exact hget
    have hbefore := keeps_run n before
    obtain ⟨r, hgave, -⟩ := (hbefore.exists_reading?_iff call.source _).2 hparse
    have hstored := (get?_step_self hbefore hgave).1 (by omega)
    obtain rfl : r = r' := Option.some.inj (hstored.symm.trans hlast)
    exact ⟨before, call, after, rfl, rfl, hgave⟩

/-! ### The whole -/

/-- After every history a cache of capacity `n` holds the `n` templates used last, in their order,
    each with what it was read as, or all of them if they are fewer.  A malformed text is refused
    every time and changes nothing.  A template is given as what it writes, and as the very reading
    of an earlier call if and only if fewer than `n` other templates were used since its last use.
    To format a source, whatever comes of that, is to use it. -/
theorem run_spec (n : Nat) (calls : List Call) :
    (run n calls).entries.map Prod.fst = (recent calls).take n ∧
    (∀ e ∈ (run n calls).entries, Template.parse e.1 = .ok e.2.template) ∧
    ((run n calls).size = min n (recent calls).length ∧ (run n calls).size ≤ n) ∧
    (∀ source f, Template.parse source = .error f →
      (run n calls).use source = .error f ∧ (run n calls).step (.parse source) = run n calls ∧
      ∀ l context, ((Formatter.cached (run n calls)).format l source context).1
        = .failed (.fault (.ofTemplate source f))) ∧
    (∀ source t, Template.parse source = .ok t →
      ∃ r, (run n calls).reading? source = some r ∧ r.template = t ∧
        (GaveBefore n calls source r ↔ UsedLately n calls source)) ∧
    ∀ l source context, ((Formatter.cached (run n calls)).format l source context).2
      = .cached ((run n calls).step (.parse source)) := by
  -- what the whole run keeps; all that follows is read off it
  have hkeeps := keeps_run n calls
  have hsize : (run n calls).size = min n (recent calls).length := by
    rw [size, ← List.length_map (f := Prod.fst), hkeeps.keys, List.length_take]
  refine ⟨hkeeps.keys, hkeeps.faithful, ⟨hsize, hsize ▸ Nat.min_le_left _ _⟩, ?_, ?_, ?_⟩
  · intro source f hparse
    have huse : (run n calls).use source = .error f := by
      -- what is held parsed once, so a malformed text is not held
      rcases (run n calls).use_cases source with ⟨r, hget, -⟩ | ⟨t, -, ht, -⟩ | ⟨f', -, hf, huse⟩
      · exact absurd (hparse.symm.trans (hkeeps.faithful.parse_of_get? hget)) (by simp)
      · exact absurd (hparse.symm.trans ht) (by simp)
      · rw [huse, ← Except.error.inj (hf.symm.trans hparse)]
    refine ⟨huse, by rw [step, huse], ?_⟩
    intro l context
    rw [Formatter.format, huse]
  · intro source t hparse
    obtain ⟨r, hr, hread⟩ := (hkeeps.exists_reading?_iff source t).2 hparse
    exact ⟨r, hr, hread, gaveBefore_iff hr⟩
  · intro l source context
    exact format_snd _ l source context

/-- To format without a count is a use, and a malformed text is none: in a cache of two the second
    template goes, and the first one keeps its reading. -/
theorem run_spec_two :
    let calls : List Call := [.parse "a", .format default "\x7b1\x7d b | c" .empty,
      .parse "bad | template", .parse "a", .parse "d"]
    (run 2 calls).entries.map Prod.fst = ["d", "a"] ∧ (run 2 calls).size = 2 ∧
      (∃ f, (run 2 calls).use "bad | template" = .error f) ∧
      ∃ r, (run 2 calls).reading? "a" = some r ∧ GaveBefore 2 calls "a" r := by
  intro calls
  obtain ⟨hentries, -, ⟨hsize, -⟩, hrefused, hgiven, -⟩ := run_spec 2 calls
  have hrecent : recent calls = ["d", "a", "\x7b1\x7d b | c"] := by decide +kernel
  have hmalformed : (Template.parse "bad | template").isOk = false := by decide +kernel
  have hplain : (Template.parse "a").isOk = true := by decide +kernel
  refine ⟨by rw [hentries, hrecent]; rfl, by rw [hsize, hrecent]; rfl, ?_, ?_⟩
  · cases hparse : Template.parse "bad | template" with
    | ok t => exact absurd hmalformed (by rw [hparse]; simp [Except.isOk, Except.toBool])
    | error f => exact ⟨f, (hrefused _ f hparse).1⟩
  · cases hparse : Template.parse "a" with
    | error f => exact absurd hplain (by rw [hparse]; simp [Except.isOk, Except.toBool])
    | ok t =>
      obtain ⟨r, hr, -, hgave⟩ := hgiven "a" t hparse
      -- since its last use only the last template was used
      refine ⟨r, hr, hgave.2 ⟨calls.take 3, .parse "a", [.parse "d"], rfl, rfl, ?_, ?_⟩⟩
      · intro later hlater
        rw [List.mem_singleton.1 hlater]
        exact fun heq => absurd heq (by decide)
      · decide +kernel

end Cache

end Phrasebook

import Phrasebook.Proofs.Cipher
import Phrasebook.Proofs.Dict
import Phrasebook.Proofs.Settings.Checks
import Phrasebook.Settings.EnvFile

namespace Phrasebook

/-!
# Loading an environment file

What is loaded adds variables and changes none.  A file is read to its end, and of the keys to a
vault the first one that opens it counts.

* `Environment.get?_withAssignments`: the variables after further assignments.
* `Environment.get?_load`: a variable that is there keeps its text, whatever is loaded.
* `Settings.ofEnvironment_load`: so settings that are all stated do not depend on any file.
* `Vault.unlock_eq_ok_iff`: which key opens a vault; `Vault.decrypt_sealed`: what it gives.
* `EnvFile.assignmentsWithin_eq`: the bound on the steps of reading is never reached.
* `EnvFile.name_of_mem_assignments`: which names a file can assign.
-/

/-! ### Variables -/

namespace Environment

/-- Assignments are taken one by one, and of several to one name the first counts. -/
theorem get?_foldl (env : Environment) (more : List (String × String)) (name : String) :
    (more.foldl (fun env a => if env.contains a.1 then env else env.insert a.1 (some a.2))
      env).get? name = (env.get? name).or ((lookupEntry name more).map some) := by
  induction more generalizing env with
  | nil =>
    rw [List.foldl_nil, lookupEntry, Option.map_none, Option.or_none]
  | cons a more ih =>
    rw [List.foldl_cons, ih, lookupEntry]
    by_cases hname : a.1 = name
    · subst hname
      rw [if_pos rfl, Dict.contains]
      cases hget : env.get? a.1 with
      | some t => simp [hget]
      | none => simp [Dict.get?_insert]
    · rw [if_neg hname]
      split
      · rfl
      · rw [Dict.get?_insert, if_neg (Ne.symm hname)]

/-- A variable that is there keeps its text; of several assignments to another one the last
    counts. -/
theorem get?_withAssignments (env : Environment) (more : List (String × String)) (name : String) :
    (env.withAssignments more).get? name
      = (env.get? name).or ((lookupEntry name more.reverse).map some) := by
  have hlast : lookupEntry name (Dict.ofList more).entries = lookupEntry name more.reverse := by
    have hget := Dict.get?_insertList Dict.empty more name
    rwa [Dict.get?_empty, Option.or_none] at hget
  rw [withAssignments, get?_foldl, hlast]

/-- A variable that is there keeps its text. -/
theorem get?_withAssignments_of_contains {env : Environment} {name : String}
    (h : env.contains name = true) (more : List (String × String)) :
    (env.withAssignments more).get? name = env.get? name := by
  obtain ⟨t, ht⟩ := Option.isSome_iff_exists.1 h
  rw [get?_withAssignments, ht, Option.some_or]

/-- A variable that is there stays there. -/
theorem contains_withAssignments {env : Environment} {name : String}
    (h : env.contains name = true) (more : List (String × String)) :
    (env.withAssignments more).contains name = true := by
  rw [Dict.contains, get?_withAssignments_of_contains h]
  exact h

/-- A variable that is there keeps its text, whatever is loaded and whatever that comes to. -/
theorem get?_load {env : Environment} {name : String} (h : env.contains name = true) (fs : Files)
    (path : Option String) : (env.load fs path).environment.get? name = env.get? name := by
  unfold load
  dsimp only
  split
  · exact get?_withAssignments_of_contains h _
  · split
    · unfold withVault
      dsimp only
      split
      · rw [get?_withAssignments_of_contains (contains_withAssignments h _),
          get?_withAssignments_of_contains h]
      · exact get?_withAssignments_of_contains h _
    · exact get?_withAssignments_of_contains h _

end Environment

/-! ### Settings -/

/-- The variables in which settings are stated. -/
def Environment.settingNames : List String :=
  [names.defaultLocale, names.fallback, names.directory, names.extensions, names.cacheSize,
    names.level]

/-- Settings are read from their variables and no others. -/
theorem RawSettings.ofEnvironment_congr {env env' : Environment}
    (h : ∀ name ∈ Environment.settingNames, env.text? name = env'.text? name) :
    ofEnvironment env = ofEnvironment env' := by
  simp only [Environment.settingNames, List.forall_mem_cons, List.not_mem_nil, false_implies,
    implies_true, and_true] at h
  obtain ⟨hlocale, hfallback, hdirectory, hextensions, hsize, hlevel⟩ := h
  simp only [ofEnvironment, Environment.trimmed?, Environment.stated?, hlocale, hfallback,
    hdirectory, hextensions, hsize, hlevel]

/-- Settings that are all stated do not depend on any file. -/
theorem Settings.ofEnvironment_load {env : Environment}
    (h : ∀ name ∈ Environment.settingNames, env.contains name = true) (fs : Files)
    (path : Option String) : ofEnvironment (env.load fs path).environment = ofEnvironment env := by
  have hraw : RawSettings.ofEnvironment (env.load fs path).environment
      = RawSettings.ofEnvironment env := by
    refine RawSettings.ofEnvironment_congr fun name hname => ?_
    rw [Environment.text?, Environment.get?_load (h name hname), Environment.text?]
  rw [ofEnvironment, ofEnvironment, hraw]

/-! ### Keys of a vault -/

namespace Vault

/-- A key opens a vault, and no key before it does. -/
def OpensFirst (text? : String → Option String) (keys : List (List Char)) (t : List Char) : Prop :=
  ∃ before fitting after, keys = before ++ fitting :: after ∧
    (∀ k ∈ before, ∃ f, openWith text? k = .error f) ∧ openWith text? fitting = .ok t

variable {text? : String → Option String} {key : List Char} {keys : List (List Char)}
  {t : List Char}

/-- Without keys there is no first one that opens a vault. -/
theorem not_opensFirst_nil : ¬ OpensFirst text? [] t := by
  rintro ⟨before, fitting, after, hsplit, -⟩
  exact absurd hsplit (by simp)

/-- The first key opens a vault, or fails and another one does. -/
theorem opensFirst_cons_iff : OpensFirst text? (key :: keys) t ↔
    openWith text? key = .ok t ∨
      (∃ f, openWith text? key = .error f) ∧ OpensFirst text? keys t := by
  constructor
  · rintro ⟨before, fitting, after, hsplit, hbefore, hfitting⟩
    cases before with
    | nil =>
      obtain ⟨rfl, -⟩ := List.cons.inj hsplit
      exact Or.inl hfitting
    | cons k before =>
      obtain ⟨rfl, htail⟩ := List.cons.inj hsplit
      obtain ⟨hkey, hbefore⟩ := List.forall_mem_cons.1 hbefore
      exact Or.inr ⟨hkey, before, fitting, after, htail, hbefore, hfitting⟩
  · rintro (h | ⟨hkey, before, fitting, after, rfl, hbefore, hfitting⟩)
    · exact ⟨[], key, keys, rfl, List.forall_mem_nil _, h⟩
    · exact ⟨key :: before, fitting, after, rfl, List.forall_mem_cons.2 ⟨hkey, hbefore⟩, hfitting⟩

/-- The first key that opens a vault counts. -/
theorem openWithAny_eq_ok_iff :
    openWithAny text? key keys = .ok t ↔ OpensFirst text? (key :: keys) t := by
  induction keys generalizing key with
  | nil =>
    rw [openWithAny, opensFirst_cons_iff]
    exact (or_iff_left fun h => not_opensFirst_nil h.2).symm
  | cons next keys ih =>
    rw [openWithAny, opensFirst_cons_iff]
    cases openWith text? key with
    | ok t' => simp
    | error f => simp [ih]

/-- A vault is opened by the first of the keys between commas that opens it. -/
theorem unlock_eq_ok_iff {stated : String} :
    unlock text? stated = .ok t ↔ OpensFirst text? (stated.toList.splitOnP (· == ',')) t := by
  rw [unlock]
  cases hkeys : stated.toList.splitOnP (· == ',') with
  | nil => exact absurd hkeys (List.splitOnP_ne_nil _ _)
  | cons key keys => exact openWithAny_eq_ok_iff

/-- A nonce, octets encrypted under it, and their tag. -/
def sealed (key nonce bs : List UInt8) : List UInt8 :=
  let encrypted := Gcm.crypt (Gcm.aes key) nonce bs
  nonce ++ encrypted ++ Gcm.tag (Gcm.aes key) nonce encrypted

/-- The text that was encrypted is what a vault gives. -/
theorem decrypt_sealed {password encrypted : List Char} {nonce bs : List UInt8}
    (hkey : (cipherKey password).length = Aes.keyLength) (hnonce : nonce.length = nonceLength)
    (h : Text.ofBase64 encrypted = sealed (cipherKey password) nonce bs) :
    decrypt password encrypted = .ok (Text.ofOctets (bs.map UInt8.toNat)) := by
  obtain ⟨cs, hcs⟩ : ∃ cs, cs = Gcm.crypt (Gcm.aes (cipherKey password)) nonce bs := ⟨_, rfl⟩
  obtain ⟨tag, htag⟩ : ∃ tag, tag = Gcm.tag (Gcm.aes (cipherKey password)) nonce cs := ⟨_, rfl⟩
  have hlength : tag.length = tagSize := by
    rw [htag]
    exact Gcm.Block.length_octets _
  have hbs : Text.ofBase64 encrypted = nonce ++ cs ++ tag := by
    rw [h, sealed, ← hcs, ← htag]
  -- what is sealed is cut into nonce, cipher and tag at fixed lengths
  have hcut : (nonce ++ cs ++ tag).length - tagSize = (nonce ++ cs).length := by
    rw [List.length_append, hlength, Nat.add_sub_cancel]
  have hfirst : (nonce ++ cs ++ tag).take nonceLength = nonce := by
    rw [List.append_assoc, ← hnonce, List.take_left]
  have hlast : (nonce ++ cs ++ tag).drop (nonce ++ cs).length = tag := List.drop_left
  have hmiddle : ((nonce ++ cs ++ tag).take (nonce ++ cs).length).drop nonceLength = cs := by
    rw [List.take_left, ← hnonce, List.drop_left]
  have hopened : Gcm.decrypt? (Gcm.aes (cipherKey password)) nonce cs tag = some bs := by
    rw [htag, hcs]
    exact Gcm.decrypt?_crypt _ nonce bs
  -- the lengths that are asked for before anything is opened
  have hsome : nonce.isEmpty = false := by
    rw [List.isEmpty_eq_false_iff, ← List.length_pos_iff, hnonce]
    decide
  have htagLength : isTagLength tag.length = true := by
    rw [hlength]
    decide
  rw [decrypt]
  simp only [hbs, hcut, hfirst, hlast, hmiddle, hopened, hkey, hsome, htagLength]
  simp

end Vault

/-! ### Reading to the end -/

namespace EnvFile

open Text (isBlank isLineEnd trimStart)

/-- A text without the blanks at its start is no longer. -/
theorem length_trimStart_le (s : List Char) : (trimStart s).length ≤ s.length :=
  (List.dropWhile_suffix _).length_le

/-- What comes after a line end is no longer than the text. -/
theorem length_lastLineEnd?_le {s r : List Char} (h : lastLineEnd? s = some r) :
    r.length ≤ s.length := by
  fun_induction lastLineEnd? s with
  | case1 => exact absurd h (by simp)
  | case2 c s hc r' hr' ih => exact Nat.le_succ_of_le (ih (hr'.trans h))
  | case3 c s hc hr' hend ih => rw [← Option.some.inj h]
  | case4 => exact absurd h (by simp)
  | case5 => exact absurd h (by simp)

/-- What follows a value is no longer than the text after it. -/
theorem length_endValue?_le {s r : List Char} (h : endValue? s = some r) :
    r.length ≤ s.length := by
  have hstart := length_trimStart_le s
  unfold endValue? at h
  split at h
  · rw [← Option.some.inj h]
    exact Nat.zero_le _
  · next c t hct =>
    split at h
    · have hsuffix := (List.dropWhile_suffix (fun c => !isLineEnd c) (l := t)).length_le
      rw [hct, List.length_cons] at hstart
      rw [← Option.some.inj h]
      omega
    · exact length_lastLineEnd?_le h

/-- What comes after a value in quotes is no longer than the text. -/
theorem length_quoted?_le {q : Char} {s v rest : List Char} (h : quoted? q s = some (v, rest)) :
    rest.length ≤ s.length := by
  fun_induction quoted? q s generalizing v rest with
  | case1 => exact absurd h (by simp)
  | case2 s =>
    obtain ⟨r, hr, heq⟩ := Option.map_eq_some_iff.1 h
    obtain ⟨-, rfl⟩ := Prod.mk.inj heq
    exact Nat.le_succ_of_le (length_endValue?_le hr)
  | case3 t v' rest' hquoted hc ih =>
    obtain ⟨-, rfl⟩ := Prod.mk.inj (Option.some.inj h)
    have hle := ih hquoted
    simp only [List.length_cons]
    omega
  | case4 t hquoted hc ih =>
    obtain ⟨r, hr, heq⟩ := Option.map_eq_some_iff.1 h
    obtain ⟨-, rfl⟩ := Prod.mk.inj heq
    have hle := length_endValue?_le hr
    simp only [List.length_cons]
    omega
  | case5 d t hd hc ih =>
    obtain ⟨⟨v', r⟩, hr, heq⟩ := Option.map_eq_some_iff.1 h
    obtain ⟨-, rfl⟩ := Prod.mk.inj heq
    exact Nat.le_succ_of_le (ih hr)
  | case6 c hc s hescape ih =>
    obtain ⟨⟨v', r⟩, hr, heq⟩ := Option.map_eq_some_iff.1 h
    obtain ⟨-, rfl⟩ := Prod.mk.inj heq
    exact Nat.le_succ_of_le (ih hr)

/-- What comes after the end of a value is no longer than the text. -/
theorem length_getD_endValue?_le (s : List Char) : ((endValue? s).getD []).length ≤ s.length := by
  cases h : endValue? s with
  | none => exact Nat.zero_le _
  | some r => exact length_endValue?_le h

/-- What follows a value is no longer than the text it was read from. -/
theorem length_value_le (s : List Char) : (value s).2.length ≤ s.length := by
  have hplain : ((endValue? (s.dropWhile isPlain)).getD []).length ≤ s.length :=
    Nat.le_trans (length_getD_endValue?_le _) (List.dropWhile_suffix _).length_le
  have hstart := length_trimStart_le s
  unfold value
  dsimp only
  split
  · next q t hqt =>
    rw [hqt, List.length_cons] at hstart
    split
    · split
      · next v rest hquoted =>
        have hle := length_quoted?_le hquoted
        show rest.length ≤ s.length
        omega
      · exact hplain
    · exact hplain
  · exact hplain

/-- A sign takes one character at least. -/
theorem length_afterSign?_lt {s t : List Char} (h : afterSign? s = some t) :
    t.length < s.length := by
  have hstart := length_trimStart_le s
  unfold afterSign? at h
  split at h
  · next t' ht =>
    rw [ht, List.length_cons] at hstart
    rw [← Option.some.inj h]
    omega
  · split at h
    · split at h
      · rw [← Option.some.inj h]
        simp only [List.length_cons]
        omega
      · exact absurd h (by simp)
    · exact absurd h (by simp)

/-- An assignment takes up some of the text. -/
theorem length_named?_lt {s : List Char} {a : Assignment} (h : named? s = some a) :
    a.rest.length < s.length := by
  unfold named? at h
  dsimp only at h
  split at h
  · exact absurd h (by simp)
  · obtain ⟨t, ht, rfl⟩ := Option.map_eq_some_iff.1 h
    have hsign := length_afterSign?_lt ht
    have hname := (List.dropWhile_suffix isNameChar (l := s)).length_le
    have hvalue := length_value_le t
    show (value t).2.length < s.length
    omega

/-- An assignment takes one character at least. -/
theorem length_assignment?_lt {s : List Char} {a : Assignment} (h : assignment? s = some a) :
    a.rest.length < s.length := by
  unfold assignment? at h
  dsimp only at h
  rcases Option.or_eq_some_iff.1 h with hexported | ⟨-, hnamed⟩
  · split at hexported
    · have hlt := length_named?_lt hexported
      have hword := length_trimStart_le (s.drop exportWord.length)
      rw [List.length_drop] at hword
      omega
    · exact absurd hexported (by simp)
  · exact length_named?_lt hnamed

/-- Any bound beyond the length of a text reads it to its end, so the bound hides nothing. -/
theorem assignmentsWithin_eq {n m : Nat} {s : List Char} (hn : s.length < n) (hm : s.length < m) :
    assignmentsWithin n s = assignmentsWithin m s := by
  induction n generalizing m s with
  | zero => exact absurd hn (Nat.not_lt_zero _)
  | succ n ih =>
    cases m with
    | zero => exact absurd hm (Nat.not_lt_zero _)
    | succ m =>
      have hstart := length_trimStart_le s
      rw [assignmentsWithin, assignmentsWithin]
      split
      · rfl
      · next c t hct =>
        rw [hct] at hstart
        split
        · next a ha =>
          -- an assignment takes one character at least, so both fuels still do for the rest
          have hlt := length_assignment?_lt ha
          have hrest : assignmentsWithin n a.rest = assignmentsWithin m a.rest :=
            ih (by omega) (by omega)
          rw [hrest]
        · -- no blank starts here, and so no line end, so that this character is passed over
          have hblank : isBlank c = false := by
            have hhead := List.head?_dropWhile_not isBlank s
            rw [show s.dropWhile isBlank = c :: t from hct] at hhead
            exact hhead
          have hend : isLineEnd c = false := by
            by_contra hend
            rw [Text.isBlank_of_isLineEnd (by simpa using hend)] at hblank
            exact absurd hblank (by simp)
          rw [List.dropWhile_cons_of_pos (by rw [hend]; rfl)]
          have hle := (List.dropWhile_suffix (fun c => !isLineEnd c) (l := t)).length_le
          rw [List.length_cons] at hstart
          exact ih (by omega) (by omega)

/-- An assigned name is a row of the characters that names have, one at least. -/
theorem name_of_named? {s : List Char} {a : Assignment} (h : named? s = some a) :
    a.name ≠ [] ∧ ∀ c ∈ a.name, isNameChar c = true := by
  unfold named? at h
  dsimp only at h
  split at h
  · exact absurd h (by simp)
  · next hname =>
    obtain ⟨t, -, rfl⟩ := Option.map_eq_some_iff.1 h
    exact ⟨by simpa using hname, fun c hc => List.mem_takeWhile_imp hc⟩

/-- A name that is assigned has a character, and only such as names may have. -/
theorem name_of_mem_assignmentsWithin {n : Nat} {s : List Char} {a : String × String}
    (h : a ∈ assignmentsWithin n s) :
    a.1 ≠ "" ∧ ∀ c ∈ a.1.toList, isNameChar c = true := by
  induction n generalizing s with
  | zero => exact absurd h List.not_mem_nil
  | succ n ih =>
    rw [assignmentsWithin] at h
    split at h
    · exact absurd h List.not_mem_nil
    · split at h
      · next a' ha' =>
        rcases List.mem_cons.1 h with rfl | h
        · have hname : a'.name ≠ [] ∧ ∀ c ∈ a'.name, isNameChar c = true := by
            rcases Option.or_eq_some_iff.1 ha' with hexported | ⟨-, hnamed⟩
            · split at hexported
              · exact name_of_named? hexported
              · exact absurd hexported (by simp)
            · exact name_of_named? hnamed
          rw [String.toList_ofList]
          exact ⟨fun hempty => hname.1 (String.ofList_eq_empty_iff.1 hempty), hname.2⟩
        · exact ih h
      · exact ih h

/-- What a file assigns are names, and the one that cannot be assigned is none of them. -/
theorem name_of_mem_assignments {text : String} {a : String × String} (h : a ∈ assignments text) :
    a.1 ≠ unassignable ∧ a.1 ≠ "" ∧ ∀ c ∈ a.1.toList, isNameChar c = true := by
  obtain ⟨hmem, hname⟩ := List.mem_filter.1 h
  exact ⟨of_decide_eq_true hname, name_of_mem_assignmentsWithin hmem⟩

end EnvFile

end Phrasebook

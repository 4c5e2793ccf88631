import Phrasebook.MessageContent
import Phrasebook.Proofs.Members
import Phrasebook.Proofs.Rows
import Phrasebook.Proofs.Text.UnitOrder

namespace Phrasebook

/-!
# Contents of message files

The content of a file is a flat object of texts.  What is checked is the record that an object of
JSON makes, in which a name has the last value given to it.

* `ObjectText`: a content that is an object, with the members that its record lists.
* `Refuses`: why a content is no flat object of messages.
* `messagesIn_eq_ok_iff`, `messagesIn_eq_error_iff`: which contents are read, as which messages, and
  how the others are refused.
* `Reports`: a refusal in strings.
* `readMessages_eq_ok_iff`, `readMessages_eq_error_iff`: the same in strings.
* `readMessages_spec`: all of it together.
-/

/-- A content is JSON for an object, and its record lists these members. -/
def ObjectText (content : String) (os : List (UnitText × Json)) : Prop :=
  ∃ members, Json.read content = .ok (.record members) ∧ Members.Lists members os

/-- The issue with a member that is no text. -/
def notText (m : UnitText × Json) : UnitText × String :=
  (m.1, "Expected string, received " ++ m.2.kind)

/-- Why a content is no flat object of messages: it is not JSON, or JSON for something else than an
    object, or its members that are no texts, or, if all are texts, the reserved id. -/
inductive Refuses (content : String) : ContentFault → Prop
  | notJson (f : Json.Fault) (h : Json.read content = .error f) : Refuses content (.notJson f)
  | notObject (v : Json) (h : Json.read content = .ok v) (hv : ∀ members, v ≠ .record members) :
    Refuses content (.notMessages [(⟨[]⟩, "Expected object, received " ++ v.kind)])
  | notTexts (os : List (UnitText × Json)) (h : ObjectText content os)
    (hos : ∃ m ∈ os, m.2.text? = none) :
    Refuses content (.notMessages ((otherMembers os).map notText))
  | reserved (ms : List (UnitText × UnitText)) (h : ObjectText content (textMembers ms))
    (hms : reservedName ∈ ms.map Prod.fst) :
    Refuses content (.notMessages [reservedIssue reservedId])

/-! ### Members -/

/-- The members of a record have the names of its texts. -/
theorem keys_textMembers (ms : List (UnitText × UnitText)) :
    (textMembers ms).map Prod.fst = ms.map Prod.fst := by
  rw [textMembers, List.map_map]
  rfl

/-- Among members that are texts each is a text. -/
theorem text?_of_mem_textMembers {ms : List (UnitText × UnitText)} {m : UnitText × Json}
    (h : m ∈ textMembers ms) : ∃ t, (m.1, t) ∈ ms ∧ m.2 = .text t := by
  obtain ⟨⟨k, t⟩, hm, rfl⟩ := List.mem_map.1 h
  exact ⟨t, hm, rfl⟩

/-- Members that are all texts are messages. -/
theorem exists_textMembers {os : List (UnitText × Json)} (h : ∀ m ∈ os, m.2.text? ≠ none) :
    ∃ ms, os = textMembers ms := by
  induction os with
  | nil => exact ⟨[], rfl⟩
  | cons m os ih =>
    obtain ⟨ms, rfl⟩ := ih fun m hm => h m (List.mem_cons_of_mem _ hm)
    obtain ⟨k, v⟩ := m
    have hv := h (k, v) List.mem_cons_self
    cases v with
    | text t => exact ⟨(k, t) :: ms, rfl⟩
    | _ => exact absurd rfl hv

/-- The members of an object are messages, or one of them is no text. -/
theorem textMembers_or (os : List (UnitText × Json)) :
    (∃ ms, os = textMembers ms) ∨ ∃ m ∈ os, m.2.text? = none := by
  by_cases h : ∃ m ∈ os, m.2.text? = none
  · exact Or.inr h
  · exact Or.inl (exists_textMembers fun m hm hnone => h ⟨m, hm, hnone⟩)

/-- A member that is no text is among the others. -/
theorem otherMembers_ne_nil {os : List (UnitText × Json)} (h : ∃ m ∈ os, m.2.text? = none) :
    otherMembers os ≠ [] := by
  obtain ⟨m, hm, hnone⟩ := h
  have hmem : m ∈ otherMembers os := List.mem_filter.2 ⟨hm, by rw [hnone]; rfl⟩
  exact List.ne_nil_of_mem hmem

/-- A message is a member that is a text. -/
theorem mem_textMembers_iff {ms : List (UnitText × UnitText)} {id t : UnitText} :
    (id, Json.text t) ∈ textMembers ms ↔ (id, t) ∈ ms := by
  constructor
  · intro h
    obtain ⟨t', hmem, ht⟩ := text?_of_mem_textMembers h
    rwa [Json.text.inj ht]
  · exact fun h => List.mem_map_of_mem (f := fun m => (m.1, Json.text m.2)) h

/-- A message is the last text that the object has under its id. -/
theorem mem_iff_of_lists {members : List (UnitText × Json)} {ms : List (UnitText × UnitText)}
    (h : Members.Lists members (textMembers ms)) (id t : UnitText) :
    (id, t) ∈ ms ↔ lookupEntry id members.reverse = some (.text t) := by
  rw [← h.values, lookupEntry_eq_some_iff h.nodup, mem_textMembers_iff]

/-! ### One object -/

/-- A content is the text of one object at most. -/
theorem ObjectText.unique {content : String} {os os' : List (UnitText × Json)}
    (h : ObjectText content os) (h' : ObjectText content os') : os = os' := by
  obtain ⟨members, hread, hlists⟩ := h
  obtain ⟨members', hread', hlists'⟩ := h'
  rw [hread] at hread'
  obtain rfl := Json.record.inj (Except.ok.inj hread')
  exact hlists.unique hlists'

/-- An object has a member of a name just where its record lists one. -/
theorem hasMember_iff {members os : List (UnitText × Json)} (h : Members.Lists members os)
    (name : UnitText) : (Json.record members).hasMember name = true ↔ name ∈ os.map Prod.fst := by
  show (lookupEntry name (Members.ofList members)).isSome = true ↔ _
  rw [← Members.lists_iff.1 h, lookupEntry_isSome]

/-- The reserved ids that an object of texts has. -/
theorem reservedIds_filter {members : List (UnitText × Json)} {ms : List (UnitText × UnitText)}
    (h : Members.Lists members (textMembers ms)) :
    (reservedIds.filter fun id => (Json.record members).hasMember (.ofString id))
      = if reservedName ∈ ms.map Prod.fst then [reservedId] else [] := by
  have hmember := hasMember_iff h reservedName
  rw [keys_textMembers] at hmember
  by_cases hreserved : reservedName ∈ ms.map Prod.fst
  · rw [if_pos hreserved]
    exact List.filter_cons_of_pos (hmember.2 hreserved)
  · rw [if_neg hreserved]
    exact List.filter_cons_of_neg (mt hmember.1 hreserved)

/-! ### What a content comes to

The schema is known by its rules alone, so each case below is one of them. -/

/-- A content that is not read has that fault. -/
theorem messagesIn_of_error {content : String} {f : Json.Fault}
    (h : Json.read content = .error f) : messagesIn content = .error (.notJson f) := by
  rw [messagesIn, h]

/-- A content that is no object is refused for what it is. -/
theorem messagesIn_of_noObject {content : String} {v : Json} (h : Json.read content = .ok v)
    (hv : ∀ members, v ≠ .record members) : messagesIn content
      = .error (.notMessages [(⟨[]⟩, "Expected object, received " ++ v.kind)]) := by
  have hnone : v.members? = none := by
    cases v with
    | record members => exact absurd rfl (hv members)
    | _ => rfl
  rw [messagesIn, h]
  simp only [recordSchema.noRecord v hnone]
  rfl

theorem joinNames_singleton (name : UnitText) : joinNames [name] = name := by
  simp [joinNames, List.intercalate]

/-- An object with other members is refused for each of them, in their order. -/
theorem messagesIn_of_notTexts {content : String} {os : List (UnitText × Json)}
    (h : ObjectText content os) (hos : ∃ m ∈ os, m.2.text? = none) :
    messagesIn content = .error (.notMessages ((otherMembers os).map notText)) := by
  obtain ⟨members, hread, hlists⟩ := h
  obtain rfl := Members.lists_iff.1 hlists
  rw [messagesIn, hread]
  simp only [recordSchema.noTexts members (otherMembers_ne_nil hos), List.map_map]
  congr 3
  funext m
  exact Prod.ext (joinNames_singleton m.1) rfl

/-- An object of texts is refused for the reserved id, or else read as it is: the id that the schema
    leaves out is not there. -/
theorem messagesIn_of_texts {content : String} {ms : List (UnitText × UnitText)}
    (h : ObjectText content (textMembers ms)) :
    messagesIn content = if reservedName ∈ ms.map Prod.fst then
      .error (.notMessages [reservedIssue reservedId]) else .ok ms := by
  obtain ⟨members, hread, hlists⟩ := h
  have hcheck := recordSchema.texts members ms (Members.lists_iff.1 hlists).symm
  rw [messagesIn, hread]
  simp only [hcheck, reservedIds_filter hlists]
  by_cases hreserved : reservedName ∈ ms.map Prod.fst
  · simp only [if_pos hreserved, List.map_cons, List.map_nil]
  · have hsame : (ms.filter fun m => m.1 ≠ reservedName) = ms := by
      refine List.filter_eq_self.2 fun m hm => decide_eq_true ?_
      rintro hid
      exact hreserved (hid ▸ List.mem_map_of_mem hm)
    simp only [if_neg hreserved, hsame]

/-- A content is not JSON, or JSON for no object, or an object with a member that is no text, or an
    object of texts. -/
theorem content_cases (content : String) :
    (∃ f, Json.read content = .error f) ∨
    (∃ v, Json.read content = .ok v ∧ ∀ members, v ≠ .record members) ∨
    (∃ os, ObjectText content os ∧ ∃ m ∈ os, m.2.text? = none) ∨
    ∃ ms, ObjectText content (textMembers ms) := by
  cases hread : Json.read content with
  | error f => exact Or.inl ⟨f, rfl⟩
  | ok v =>
    by_cases hv : ∃ members, v = .record members
    · obtain ⟨members, rfl⟩ := hv
      have hobject : ObjectText content (Members.ofList members) :=
        ⟨members, hread, Members.lists_ofList members⟩
      rcases textMembers_or (Members.ofList members) with ⟨ms, hms⟩ | hnot
      · exact Or.inr (Or.inr (Or.inr ⟨ms, hms ▸ hobject⟩))
      · exact Or.inr (Or.inr (Or.inl ⟨_, hobject, hnot⟩))
    · exact Or.inr (Or.inl ⟨v, rfl, fun members hrecord => hv ⟨members, hrecord⟩⟩)

/-- The messages of a content are the members of its object. -/
theorem messagesIn_eq_ok_iff {content : String} {ms : List (UnitText × UnitText)} :
    messagesIn content = .ok ms ↔
      ObjectText content (textMembers ms) ∧ reservedName ∉ ms.map Prod.fst := by
  constructor
  · intro h
    rcases content_cases content with ⟨f, hread⟩ | ⟨v, hread, hv⟩ | ⟨os, hobject, hos⟩ |
      ⟨ms', hobject⟩
    · exact absurd ((messagesIn_of_error hread).symm.trans h) (by simp)
    · exact absurd ((messagesIn_of_noObject hread hv).symm.trans h) (by simp)
    · exact absurd ((messagesIn_of_notTexts hobject hos).symm.trans h) (by simp)
    · rw [messagesIn_of_texts hobject] at h
      split at h
      · exact absurd h (by simp)
      · next hreserved =>
        obtain rfl := Except.ok.inj h
        exact ⟨hobject, hreserved⟩
  · rintro ⟨hobject, hreserved⟩
    rw [messagesIn_of_texts hobject, if_neg hreserved]

/-- A content is refused for one reason. -/
theorem messagesIn_eq_error_iff {content : String} {f : ContentFault} :
    messagesIn content = .error f ↔ Refuses content f := by
  constructor
  · intro h
    rcases content_cases content with ⟨f, hread⟩ | ⟨v, hread, hv⟩ | ⟨os, hobject, hos⟩ |
      ⟨ms, hobject⟩
    · rw [← Except.error.inj ((messagesIn_of_error hread).symm.trans h)]
      exact .notJson f hread
    · rw [← Except.error.inj ((messagesIn_of_noObject hread hv).symm.trans h)]
      exact .notObject v hread hv
    · rw [← Except.error.inj ((messagesIn_of_notTexts hobject hos).symm.trans h)]
      exact .notTexts os hobject hos
    · rw [messagesIn_of_texts hobject] at h
      split at h
      · next hreserved =>
        rw [← Except.error.inj h]
        exact .reserved ms hobject hreserved
      · exact absurd h (by simp)
  · intro h
    cases h with
    | notJson f h => exact messagesIn_of_error h
    | notObject v h hv => exact messagesIn_of_noObject h hv
    | notTexts os h hos => exact messagesIn_of_notTexts h hos
    | reserved ms h hms => rw [messagesIn_of_texts h, if_pos hms]

/-! ### In strings -/

/-- A message in its units. -/
def messageInUnits (m : String × String) : UnitText × UnitText :=
  (.ofString m.1, .ofString m.2)

/-- An issue under its name in units. -/
def issueInUnits (i : ContentIssue) : UnitText × String :=
  (.ofString i.path, i.message)

/-- A message in strings is that message in units. -/
theorem messageInStrings?_eq_some_iff {m : UnitText × UnitText} {s : String × String} :
    messageInStrings? m = some s ↔ messageInUnits s = m := by
  obtain ⟨id, t⟩ := m
  obtain ⟨i, u⟩ := s
  simp only [messageInStrings?, messageInUnits, Option.bind_eq_some_iff, Option.map_eq_some_iff,
    UnitText.string?_eq_some_iff, Prod.mk.injEq]
  constructor
  · rintro ⟨i', hid, u', ht, rfl, rfl⟩
    exact ⟨hid, ht⟩
  · rintro ⟨hid, ht⟩
    exact ⟨i, hid, u, ht, rfl, rfl⟩

/-- An issue in strings is that issue in units. -/
theorem issueInStrings?_eq_some_iff {i : UnitText × String} {s : ContentIssue} :
    issueInStrings? i = some s ↔ issueInUnits s = i := by
  obtain ⟨name, message⟩ := i
  obtain ⟨path, message'⟩ := s
  simp only [issueInStrings?, issueInUnits, Option.map_eq_some_iff, UnitText.string?_eq_some_iff,
    ContentIssue.mk.injEq, Prod.mk.injEq]
  constructor
  · rintro ⟨path', hpath, rfl, hmessage⟩
    exact ⟨hpath, hmessage.symm⟩
  · rintro ⟨hpath, hmessage⟩
    exact ⟨path, hpath, rfl, hmessage.symm⟩

/-- What is wrong with a content, in strings. -/
inductive Reports (path : String) : ContentFault → LoadFault → Prop
  | notJson (f : Json.Fault) : Reports path (.notJson f) (.notJson path f)
  | notMessages (issues : List ContentIssue) :
    Reports path (.notMessages (issues.map issueInUnits)) (.content path issues)

/-- A fault at a path is reported as it is said to be. -/
theorem atPath?_eq_some_iff {path : String} {f : ContentFault} {e : LoadFault} :
    f.atPath? path = some e ↔ Reports path f e := by
  constructor
  · intro h
    cases f with
    | notJson f =>
      rw [← Option.some.inj h]
      exact .notJson f
    | notMessages issues =>
      obtain ⟨is, his, rfl⟩ := Option.map_eq_some_iff.1 h
      rw [← (mapM_eq_some_iff fun _ _ => issueInStrings?_eq_some_iff).1 his]
      exact .notMessages is
  · intro h
    cases h with
    | notJson f => rfl
    | notMessages issues =>
      rw [ContentFault.atPath?,
        (mapM_eq_some_iff fun _ _ => issueInStrings?_eq_some_iff).2 rfl]
      rfl

/-- Messages in strings are those messages in units. -/
theorem mapM_messageInStrings?_iff {us : List (UnitText × UnitText)} {ms : List (String × String)} :
    us.mapM messageInStrings? = some ms ↔ ms.map messageInUnits = us :=
  mapM_eq_some_iff fun _ _ => messageInStrings?_eq_some_iff

/-- A content with messages is whole if and only if there are strings for them. -/
theorem wholeContent_of_ok {content : String} {us : List (UnitText × UnitText)}
    (h : messagesIn content = .ok us) :
    WholeContent content ↔ ∃ ms, us.mapM messageInStrings? = some ms := by
  rw [← Option.isSome_iff_exists, isSome_mapM, WholeContent, h]
  refine forall₂_congr fun m _ => ?_
  simp only [messageInStrings?, UnitText.IsWhole]
  cases m.1.string? <;> cases m.2.string? <;> simp

/-- A refused content is whole if and only if there are strings for what is wrong with it. -/
theorem wholeContent_of_error {content : String} {f : ContentFault}
    (h : messagesIn content = .error f) (path : String) :
    WholeContent content ↔ ∃ e, f.atPath? path = some e := by
  rw [← Option.isSome_iff_exists, WholeContent, h]
  cases f with
  | notJson f => exact iff_of_true trivial rfl
  | notMessages issues =>
    rw [ContentFault.atPath?, Option.isSome_map, isSome_mapM]
    simp only [issueInStrings?, Option.isSome_map, UnitText.IsWhole]

/-- Messages are read as those that the content has in its units. -/
theorem readMessages_eq_ok_iff {content path : String} {ms : List (String × String)} :
    readMessages content path = .ok ms ↔ messagesIn content = .ok (ms.map messageInUnits) := by
  rw [readMessages]
  cases hread : messagesIn content with
  | error f => simp
  | ok us =>
    rw [Except.ok.injEq, eq_comm (a := us), ← mapM_messageInStrings?_iff]
    cases hstrings : us.mapM messageInStrings? <;> simp [hstrings]

/-- A content is refused as it is in its units, or because it has half of a surrogate pair. -/
theorem readMessages_eq_error_iff {content path : String} {e : LoadFault} :
    readMessages content path = .error e ↔
      (∃ f, messagesIn content = .error f ∧ Reports path f e) ∨
      ¬ WholeContent content ∧ e = .halfPair path := by
  rw [readMessages]
  cases hread : messagesIn content with
  | ok us =>
    rw [wholeContent_of_ok hread]
    cases hstrings : us.mapM messageInStrings? <;> simp [hstrings, eq_comm]
  | error f =>
    have hreports : (∃ f', (Except.error f : Except ContentFault (List (UnitText × UnitText)))
        = .error f' ∧ Reports path f' e) ↔ f.atPath? path = some e := by
      simp only [Except.error.injEq, exists_eq_left', atPath?_eq_some_iff]
    rw [hreports, wholeContent_of_error hread path]
    cases hpath : f.atPath? path <;> simp [hpath, eq_comm]

/-- Whatever is wrong with a content is told of the file at its path, under one code. -/
theorem path_code_of_readMessages {content path : String} {e : LoadFault}
    (h : readMessages content path = .error e) :
    e.path = path ∧ e.code = "INVALID_FILE_CONTENT" := by
  rcases readMessages_eq_error_iff.1 h with ⟨f, -, hreports⟩ | ⟨-, rfl⟩
  · cases hreports <;> exact ⟨rfl, rfl⟩
  · exact ⟨rfl, rfl⟩

/-- A file has at most one message under an id. -/
theorem nodup_of_readMessages {content path : String} {ms : List (String × String)}
    (h : readMessages content path = .ok ms) : (ms.map Prod.fst).Nodup := by
  obtain ⟨⟨members, -, hlists⟩, -⟩ := messagesIn_eq_ok_iff.1 (readMessages_eq_ok_iff.1 h)
  have hnodup := hlists.nodup
  rw [keys_textMembers, List.map_map] at hnodup
  have hkeys : (ms.map (Prod.fst ∘ messageInUnits)) = (ms.map Prod.fst).map UnitText.ofString := by
    rw [List.map_map]
    rfl
  rw [hkeys] at hnodup
  exact List.Pairwise.of_map _ (fun _ _ hne heq => hne (congrArg UnitText.ofString heq)) hnodup

/-! ### The whole -/

/-- A content is read if and only if it is an object of texts without the reserved id, and then as
    the very members of its record, so that leaving out the reserved id takes nothing away.  Any
    other content is refused for what is wrong with it.  All of this is said of the units of the
    texts; the loader reads the same in strings, and refuses what no strings are there for. -/
theorem readMessages_spec (content path : String) :
    ((∃ ms, messagesIn content = .ok ms) ↔
      ∃ os, ObjectText content os ∧ (∀ m ∈ os, ∃ t, m.2 = .text t) ∧
        reservedName ∉ os.map Prod.fst) ∧
    (∀ ms, messagesIn content = .ok ms →
      ObjectText content (textMembers ms) ∧ (ms.filter fun m => m.1 ≠ reservedName) = ms ∧
      ∀ members, Json.read content = .ok (.record members) →
        ∀ id t, (id, t) ∈ ms ↔ lookupEntry id members.reverse = some (.text t)) ∧
    (∀ f, messagesIn content = .error f ↔ Refuses content f) ∧
    (∀ os os', ObjectText content os → ObjectText content os' → os = os') ∧
    (∀ ms, readMessages content path = .ok ms ↔
      messagesIn content = .ok (ms.map messageInUnits)) ∧
    (∀ e, readMessages content path = .error e ↔
      (∃ f, messagesIn content = .error f ∧ Reports path f e) ∨
      ¬ WholeContent content ∧ e = .halfPair path) ∧
    ∀ e, readMessages content path = .error e →
      (Fault.unloadable e).name = "CatalogueLoadError" ∧
      (Fault.unloadable e).code = "INVALID_FILE_CONTENT" ∧ e.path = path := by
  refine ⟨⟨?_, ?_⟩, fun ms hms => ?_, fun f => messagesIn_eq_error_iff,
    fun os os' h h' => h.unique h', fun ms => readMessages_eq_ok_iff,
    fun e => readMessages_eq_error_iff, fun e he => ?_⟩
  · rintro ⟨ms, hms⟩
    -- the texts that are read are the members of the object
    obtain ⟨hobject, hreserved⟩ := messagesIn_eq_ok_iff.1 hms
    refine ⟨textMembers ms, hobject, fun m hm => ?_, by rwa [keys_textMembers]⟩
    obtain ⟨t, -, ht⟩ := text?_of_mem_textMembers hm
    exact ⟨t, ht⟩
  · rintro ⟨os, hobject, htexts, hreserved⟩
    -- an object whose members are all texts is made of messages
    obtain ⟨ms, rfl⟩ : ∃ ms, os = textMembers ms := by
      refine exists_textMembers fun m hm => ?_
      obtain ⟨t, ht⟩ := htexts m hm
      rw [ht]
      exact Option.some_ne_none t
    exact ⟨ms, messagesIn_eq_ok_iff.2 ⟨hobject, by rwa [keys_textMembers] at hreserved⟩⟩
  · obtain ⟨hobject, hreserved⟩ := messagesIn_eq_ok_iff.1 hms
    refine ⟨hobject, List.filter_eq_self.2 fun m hm => ?_, fun members hread id t => ?_⟩
    · refine decide_eq_true ?_
      rintro hid
      exact hreserved (hid ▸ List.mem_map_of_mem hm)
    · obtain ⟨members', hread', hlists⟩ := hobject
      rw [hread] at hread'
      obtain rfl := Json.record.inj (Except.ok.inj hread')
      exact mem_iff_of_lists hlists id t
  · obtain ⟨hpath, hcode⟩ := path_code_of_readMessages he
    exact ⟨rfl, hcode, hpath⟩

/-- Two ids that are different halves of a pair are two messages, which no strings are there for; a
    content without halves is read as its record lists it. -/
theorem readMessages_spec_halves :
    let halves := "\x7b\"\\ud800\":\"a\",\"\\ud801\":\"b\"\x7d"
    messagesIn halves = .ok [(⟨[0xD800]⟩, .ofString "a"), (⟨[0xD801]⟩, .ofString "b")] ∧
    readMessages halves "m.en.json" = .error (.halfPair "m.en.json") ∧
    readMessages "\x7b\"b\":\"x\",\"2\":\"y\",\"b\":\"z\"\x7d" "m.en.json"
      = .ok [("2", "y"), ("b", "z")] := by
  intro halves
  have hhalves : messagesIn halves
      = .ok [(⟨[0xD800]⟩, .ofString "a"), (⟨[0xD801]⟩, .ofString "b")] :=
    toOption_eq_some_iff.1 (by decide +kernel)
  obtain ⟨-, -, -, -, -, hrefused, -⟩ := readMessages_spec halves "m.en.json"
  obtain ⟨-, -, -, -, hread, -⟩ :=
    readMessages_spec "\x7b\"b\":\"x\",\"2\":\"y\",\"b\":\"z\"\x7d" "m.en.json"
  refine ⟨hhalves, (hrefused _).2 (Or.inr ⟨fun hwhole => ?_, rfl⟩), (hread _).2 ?_⟩
  · -- the first id is no string
    rw [WholeContent, hhalves] at hwhole
    exact absurd (hwhole _ List.mem_cons_self).1 (by decide +kernel)
  · exact toOption_eq_some_iff.1 (by decide +kernel)

end Phrasebook

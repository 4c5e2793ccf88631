import Phrasebook.Fault
import Phrasebook.Json.Reader
import Phrasebook.Members

namespace Phrasebook

/-!
# Contents of message files

The content of a message file is a flat JSON object of message ids and templates.  A schema checks
that it is one; the schema leaves out the one name that no record can have, so that name is refused
apart.

* `RecordSchema`: the rules by which a value is checked to be a record of texts.
* `messagesIn`: the messages that a content holds, in their units, or what is wrong with it.
* `readMessages`: the same in strings.
-/

/-! ### Records of texts -/

/-- What is wrong with a value: the names that lead to the place, and a message. -/
structure ValueIssue where
  path : List UnitText
  message : String

/-- The one name that no record can have. -/
def reservedId : String := "__proto__"

/-- That name, in units. -/
def reservedName : UnitText :=
  .ofString reservedId

/-- Texts under their names, as members of an object. -/
def textMembers (ms : List (UnitText × UnitText)) : List (UnitText × Json) :=
  ms.map fun m => (m.1, .text m.2)

/-- The members that are no texts. -/
def otherMembers (os : List (UnitText × Json)) : List (UnitText × Json) :=
  os.filter fun m => m.2.text?.isNone

/-- A value of another kind than the expected one. -/
def otherKind (expected : String) (path : List UnitText) (v : Json) : ValueIssue :=
  ⟨path, "Expected " ++ expected ++ ", received " ++ v.kind⟩

/-- The rules by which a value is checked to be a record of texts.  They are those of a library, and
    this is all that is known of it. -/
structure RecordSchema where
  /-- the record that a value is, or what is wrong with it -/
  check : Json → Except (List ValueIssue) (List (UnitText × UnitText))
  /-- only an object is a record -/
  noRecord : ∀ v, v.members? = none → check v = .error [otherKind "object" [] v]
  /-- every member is checked, and every one that is no text is reported, in the order of the
      record -/
  noTexts : ∀ members, otherMembers (Members.ofList members) ≠ [] → check (.record members)
    = .error ((otherMembers (Members.ofList members)).map fun m => otherKind "string" [m.1] m.2)
  /-- a record of texts comes out as it is, but for the name that no record can have -/
  texts : ∀ members ms, Members.ofList members = textMembers ms →
    check (.record members) = .ok (ms.filter fun m => m.1 ≠ reservedName)

/-- A member as a text under its name. -/
def textMember? (m : UnitText × Json) : Option (UnitText × UnitText) :=
  m.2.text?.map fun t => (m.1, t)

/-- Among members that are texts there are no others. -/
theorem otherMembers_textMembers (ms : List (UnitText × UnitText)) :
    otherMembers (textMembers ms) = [] := by
  rw [otherMembers, List.filter_eq_nil_iff]
  intro m hm
  obtain ⟨m', -, rfl⟩ := List.mem_map.1 hm
  exact Bool.false_ne_true

/-- Members that are texts are all read as texts. -/
theorem filterMap_textMember?_textMembers (ms : List (UnitText × UnitText)) :
    (textMembers ms).filterMap textMember? = ms := by
  rw [textMembers, List.filterMap_map]
  exact List.filterMap_some

/-- The rules, as they are carried out. -/
def recordSchema : RecordSchema where
  check
    | .record members =>
      match otherMembers (Members.ofList members) with
      | [] => .ok (((Members.ofList members).filterMap textMember?).filter
          fun m => m.1 ≠ reservedName)
      | ms => .error (ms.map fun m => otherKind "string" [m.1] m.2)
    | v => .error [otherKind "object" [] v]
  noRecord v hv := by
    cases v with
    | record members => exact absurd hv (by simp [Json.members?])
    | _ => rfl
  noTexts members hother := by
    obtain ⟨m, ms, hms⟩ := List.exists_cons_of_ne_nil hother
    simp only [hms]
  texts members ms hms := by
    simp only [hms, otherMembers_textMembers, filterMap_textMember?_textMembers]

/-! ### Contents -/

/-- What is wrong with a content. -/
inductive ContentFault
  /-- it is not JSON -/
  | notJson (f : Json.Fault)
  /-- it is JSON for something else than a flat object of texts; each issue has a name, in units -/
  | notMessages (issues : List (UnitText × String))

/-- The ids that a record cannot have. -/
def reservedIds : List String := [reservedId]

/-- Whether an object has a member of this name. -/
def Json.hasMember (v : Json) (name : UnitText) : Bool :=
  (v.members?.bind fun members => lookupEntry name (Members.ofList members)).isSome

/-- Names with dots between them, as one. -/
def joinNames (names : List UnitText) : UnitText :=
  ⟨(UnitText.ofString ".").units.intercalate (names.map UnitText.units)⟩

/-- The issue with a reserved id. -/
def reservedIssue (id : String) : UnitText × String :=
  (.ofString id, "'" ++ id ++ "' is a reserved message id")

/-- The messages that a content holds, in the order of a record. -/
def messagesIn (content : String) : Except ContentFault (List (UnitText × UnitText)) :=
  match Json.read content with
  | .error f => .error (.notJson f)
  | .ok v =>
    match recordSchema.check v with
    | .error issues => .error (.notMessages (issues.map fun i => (joinNames i.path, i.message)))
    | .ok ms =>
      match reservedIds.filter fun id => v.hasMember (.ofString id) with
      | [] => .ok ms
      | ids => .error (.notMessages (ids.map reservedIssue))

/-! ### In strings -/

/-- A message in strings, if there are strings for it. -/
def messageInStrings? (m : UnitText × UnitText) : Option (String × String) :=
  m.1.string?.bind fun id => m.2.string?.map fun template => (id, template)

/-- An issue under a string, if there is one for it. -/
def issueInStrings? (i : UnitText × String) : Option ContentIssue :=
  i.1.string?.map fun path => ⟨path, i.2⟩

/-- What is wrong with the content of the file at a path, if there are strings for it. -/
def ContentFault.atPath? (path : String) : ContentFault → Option LoadFault
  | notJson f => some (.notJson path f)
  | notMessages issues => (issues.mapM issueInStrings?).map (.content path)

/-- The messages that the content of a file holds.  A content with half of a surrogate pair where a
    string is needed is refused. -/
def readMessages (content path : String) : Except LoadFault (List (String × String)) :=
  match messagesIn content with
  | .ok ms => (ms.mapM messageInStrings?).elim (.error (.halfPair path)) .ok
  | .error f => .error ((f.atPath? path).getD (.halfPair path))

/-- No id, no message and no name of an issue has half of a surrogate pair alone. -/
def WholeContent (content : String) : Prop :=
  match messagesIn content with
  | .ok ms => ∀ m ∈ ms, m.1.IsWhole ∧ m.2.IsWhole
  | .error (.notMessages issues) => ∀ i ∈ issues, i.1.IsWhole
  | .error (.notJson _) => True

end Phrasebook

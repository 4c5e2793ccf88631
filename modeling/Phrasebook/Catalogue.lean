import Phrasebook.Locale
import Phrasebook.Members
import Phrasebook.Text.Units

namespace Phrasebook

/-!
# Catalogues

The messages of one locale: templates by domain and id.

* `Catalogue`: the domains that messages were put into, each with its messages.
* `Catalogue.get?`, `Catalogue.insert`, `Catalogue.remove`, `Catalogue.removeAll`.
* `Catalogue.put`, `Catalogue.take`, `Catalogue.takeAll`: the same changes with what they answer.
* `Catalogue.domains`, `Catalogue.getAll?`: what is listed, and in which order.
* `Catalogue.merge`: another catalogue's messages put in, in the order it lists them.
-/

/-- The messages of one domain. -/
abbrev Messages := Dict String String

/-- The messages of one locale.  A domain stays when its last message is removed. -/
structure Catalogue where
  locale : Locale
  messages : Dict String Messages := Dict.empty
  deriving DecidableEq

namespace Catalogue

/-- The template under a domain and an id. -/
def get? (c : Catalogue) (domain id : String) : Option String :=
  (c.messages.get? domain).bind fun ms => ms.get? id

/-- Whether there is a template under a domain and an id. -/
def has (c : Catalogue) (domain id : String) : Bool :=
  ((c.messages.get? domain).map fun ms => ms.contains id).getD false

/-- The number of messages. -/
def size (c : Catalogue) : Nat :=
  c.messages.values.foldl (fun n ms => n + ms.size) 0

/-- The domains, in ascending order. -/
def domains (c : Catalogue) : List String :=
  Text.sortNames c.messages.keys

/-- The messages of a domain, in the order of a record. -/
def getAll? (c : Catalogue) (domain : String) : Option (List (String × String)) :=
  (c.messages.get? domain).map fun ms => arrange ms.entries

/-- A template put under a domain and an id. -/
def insert (c : Catalogue) (domain id template : String) : Catalogue :=
  let ms := (c.messages.get? domain).getD Dict.empty
  { c with messages := c.messages.insert domain (ms.insert id template) }

/-- The template under a domain and an id taken away. -/
def remove (c : Catalogue) (domain id : String) : Catalogue :=
  match c.messages.get? domain with
  | none => c
  | some ms => { c with messages := c.messages.insert domain (ms.erase id) }

/-- A domain taken away with its messages. -/
def removeAll (c : Catalogue) (domain : String) : Catalogue :=
  { c with messages := c.messages.erase domain }

/-- A template put under a domain and an id; the answer is the one that it takes the place of. -/
def put (c : Catalogue) (domain id template : String) : Option String × Catalogue :=
  (((c.messages.get? domain).getD Dict.empty).get? id, c.insert domain id template)

/-- The template under a domain and an id taken away; the answer is that template. -/
def take (c : Catalogue) (domain id : String) : Option String × Catalogue :=
  ((c.messages.get? domain).bind fun ms => ms.get? id, c.remove domain id)

/-- A domain taken away; the answer is what it listed. -/
def takeAll (c : Catalogue) (domain : String) :
    Option (List (String × String)) × Catalogue :=
  (c.getAll? domain, c.removeAll domain)

/-- The templates of a list of messages put under a domain. -/
def insertAll (c : Catalogue) (domain : String) (ms : List (String × String)) : Catalogue :=
  ms.foldl (fun c m => c.insert domain m.1 m.2) c

/-- What a catalogue lists: its domains in ascending order, each with its messages in the order of
    a record. -/
def listing (c : Catalogue) : List (String × List (String × String)) :=
  c.domains.map fun d => (d, (c.getAll? d).getD [])

/-- The messages of a listing put in. -/
def insertListing (c : Catalogue) (listing : List (String × List (String × String))) :
    Catalogue :=
  listing.foldl (fun c d => c.insertAll d.1 d.2) c

/-- The messages of another catalogue put in; they win over those that are there. -/
def merge (c other : Catalogue) : Catalogue :=
  c.insertListing other.listing

/-- A catalogue with the same messages that shares nothing with this one. -/
def clone (c : Catalogue) : Catalogue :=
  merge { locale := c.locale } c

/-- The catalogue of a record of domains. -/
def ofMessages (locale : Locale) (domains : List (String × List (String × String))) : Catalogue :=
  insertListing { locale := locale }
    ((Members.ofList domains).map fun d => (d.1, Members.ofList d.2))

/-- The one domain that a record of domains cannot hold. -/
def unlistedDomain : String := "__proto__"

/-- A catalogue as a record of domains. -/
def toRecord (c : Catalogue) : List (String × List (String × String)) :=
  arrange (c.listing.filter fun d => d.1 ≠ unlistedDomain)

/-! ### What a catalogue answers after a change -/

/-- The templates after a message is put in. -/
theorem get?_insert (c : Catalogue) (domain id template domain' id' : String) :
    (c.insert domain id template).get? domain' id'
      = if domain' = domain ∧ id' = id then some template else c.get? domain' id' := by
  unfold insert get?
  rw [Dict.get?_insert]
  by_cases hd : domain' = domain
  · subst hd
    cases h : c.messages.get? domain' <;> simp [Dict.get?_insert]
  · simp [hd]

/-- The templates after a message is taken away. -/
theorem get?_remove (c : Catalogue) (domain id domain' id' : String) :
    (c.remove domain id).get? domain' id'
      = if domain' = domain ∧ id' = id then none else c.get? domain' id' := by
  unfold remove get?
  cases h : c.messages.get? domain with
  | none =>
    by_cases hd : domain' = domain
    · simp [hd, h]
    · simp [hd]
  | some ms =>
    by_cases hd : domain' = domain
    · simp [hd, h, Dict.get?_insert, Dict.get?_erase]
    · simp [hd, Dict.get?_insert]

/-- The templates after a domain is taken away. -/
theorem get?_removeAll (c : Catalogue) (domain domain' id : String) :
    (c.removeAll domain).get? domain' id
      = if domain' = domain then none else c.get? domain' id := by
  unfold removeAll get?
  rw [Dict.get?_erase]
  by_cases hd : domain' = domain <;> simp [hd]

end Catalogue

end Phrasebook

import Phrasebook.Service

namespace Phrasebook

/-!
# Requests

A request states the locale it wants outright or by the languages its reader prefers.  It keeps the
locale and the resolver it was accepted with.

* `Headers.detect`: the locale that a request wants.
* `Request.accept`: a request given its locale and the resolver of a service.
* `Request.handle`: the same, and the request handed on to what handles it next.
* `Request.localeOr`: the locale of a request, accepted or not.
-/

/-- What a request states about its language. -/
structure Headers where
  /-- the values that name a locale outright; the first one counts -/
  named : List String := []
  /-- the languages that the reader prefers -/
  languages : Option String := none

/-- A request; it has a locale and a resolver once it is accepted. -/
structure Request where
  locale : Option Locale := none
  resolver : Option (Ref Resolver) := none
  deriving DecidableEq

/-- The locale name that is stated outright, without outer blanks; none where nothing is left. -/
def Headers.name? (h : Headers) : Option String :=
  (h.named.head?.map fun s => String.ofList (Text.trim s.toList)).filter fun s => !s.isEmpty

/-- The line that tells of a name that no locale has. -/
def unknownNameLine (name : String) : Line where
  severity := .warn
  origin := Service.origin
  message := "Ignoring unknown X-Locale header"
  context := [("value", .text name)]

/-- The locale that a request wants: the one it names, if that is known, else the one its reader's
    languages come to. -/
def Headers.detect (h : Headers) (sv : Service) : Logged Locale :=
  match h.name? with
  | none => sv.negotiate h.languages
  | some name =>
    match Locale.ofTag? name with
    | some l => { answer := l }
    | none =>
      let r := sv.negotiate h.languages
      { r with events := .line (unknownNameLine name) :: r.events }

/-- How the handling of a request ends: the request after it, each call of what handles it next,
    with the failure that is passed on if there is one, and what was done to the log. -/
structure Handled where
  request : Request
  next : List (Option Failure)
  events : List LogEvent := []

namespace Request

/-- A request given its locale and the resolver of a service.  A service without messages refuses
    it and leaves it as it was. -/
def accept (q : Request) (sv : Service) (h : Headers) : Logged (Except Failure Request) :=
  match sv.resolverRef with
  | .error f => { answer := .error f }
  | .ok r =>
    let detected := h.detect sv
    { answer := .ok { q with locale := some detected.answer, resolver := some r }
      events := detected.events }

/-- A request accepted, or left as it was, and handed on; a refusal is passed on as a failure. -/
def handle (q : Request) (sv : Service) (h : Headers) : Handled :=
  let r := q.accept sv h
  match r.answer with
  | .error f => { request := q, next := [some f], events := r.events }
  | .ok accepted => { request := accepted, next := [none], events := r.events }

/-- The locale of a request, or another one where it has none. -/
def localeOr (q : Request) (other : Locale) : Locale :=
  q.locale.getD other

/-- The message of a domain and an id for a request, and the store after it; nothing where the
    request was not accepted. -/
def message (q : Request) (store : Store) (domain id : String) (c : Context) :
    Option (Except Failure String × Store) :=
  match q.locale, q.resolver with
  | some l, some r =>
    (store.message r l domain id c).map fun p => (p.1.map Rendered.message, p.2)
  | _, _ => none

end Request

end Phrasebook

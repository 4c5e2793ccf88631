import Phrasebook.Proofs.Store.History
import Phrasebook.Request

namespace Phrasebook

/-!
# Sessions

An application at work: catalogues, bags and resolvers, any number of services over them, and any
number of requests that the services handle.  A session goes from act to act; what an act does to
the log is told apart from what it answers.

* `Session`: what is there.
* `Session.Act`: one call of the library.
* `Session.perform`: what a call answers, what is there after it, and what it did to the log.
* `Session.run`: what is there after a row of calls.
-/

/-- An application at work. -/
structure Session where
  store : Store := {}
  services : Arena Service := {}
  requests : Arena Request := {}

namespace Session

/-- How the files of a directory are read: one after another, or at once, where the readings end in
    some order. -/
inductive Order
  | oneByOne
  | atOnce (ended : List Nat → List Nat)

/-- The bag that a directory makes. -/
def Order.loadBag (o : Order) (fs : Files) (clock : Clock) (dir : String)
    (extensions : List String) : Logged (Except LoadFault Bag) :=
  match o with
  | oneByOne => Phrasebook.loadBag fs clock dir extensions
  | atOnce ended => loadBagInParallel ended fs clock dir extensions

/-- One call of the library. -/
inductive Act
  /-- something is asked that changes nothing, of locales, catalogues, bags, resolvers, services,
      settings or files -/
  | question (f : Session → Except Failure Value)
  /-- catalogues, bags and resolvers are used -/
  | use (e : Event)
  /-- a directory is loaded into a new bag -/
  | load (o : Order) (fs : Files) (clock : Clock) (dir : String) (extensions : List String)
  /-- the level of the log is set by name -/
  | setLevel (name : String)
  /-- a service is set up -/
  | setUp (o : ServiceOptions)
  /-- a service is set up from the environment, with its messages loaded -/
  | create (env : Environment) (fs : Files) (clock : Clock) (ended : List Nat → List Nat)
  /-- a bag is installed in a service -/
  | install (sv : Ref Service) (b : Ref HeldBag)
  /-- a service is called for messages -/
  | begin (sv : Ref Service)
  /-- the load that a service began ends -/
  | finish (sv : Ref Service) (fs : Files) (clock : Clock) (ended : List Nat → List Nat)
  /-- a service is asked for a message -/
  | translate (sv : Ref Service) (l : LocaleRef) (domain id : String) (c : Context)
  /-- a service is asked for the locale of a header -/
  | negotiate (sv : Ref Service) (header : Option String)
  /-- a service is asked for the locale of a request with these headers -/
  | detect (sv : Ref Service) (h : Headers)
  /-- a request comes in -/
  | arrive
  /-- a service handles a request with these headers -/
  | handle (q : Ref Request) (sv : Ref Service) (h : Headers)
  /-- a request is asked for a message -/
  | ask (q : Ref Request) (domain id : String) (c : Context)

/-- What a call answers. -/
inductive Answer
  | nothing
  | value (v : Value)
  | reply (r : Reply)
  | bag (b : Ref HeldBag)
  | service (sv : Ref Service)
  | request (q : Ref Request)
  | start (s : Service.Start)
  | message (m : String)
  | locale (l : Locale)
  /-- the calls of what handles a request next -/
  | next (calls : List (Option Failure))

/-- How a call ends. -/
structure Performed where
  answer : Except Failure Answer
  session : Session
  events : List LogEvent := []

/-- What an event on catalogues, bags and resolvers answers.  What else it may answer is a question
    about what was there before. -/
def answerOf (s : Store) : Event → Except Failure Answer
  | .ask r q => .ok ((s.ask r q).elim .nothing fun p => .reply p.1)
  | .setFallback _ l => ((localeOrOff l).mapError .fault).map fun _ => .nothing
  | .newResolver b fallback capacity =>
    match Formatter.ofCapacity capacity with
    | .error f => .error (.capacity f)
    | .ok f => ((Resolver.ofOptions b fallback f).mapError .fault).map fun _ => .nothing
  | _ => .ok .nothing

/-- A call that changes nothing. -/
def answered (p : Session) (answer : Except Failure Answer) (events : List LogEvent := []) :
    Performed :=
  { answer := answer, session := p, events := events }

/-- A call on a service that leaves it in some state. -/
def ofRun (p : Session) (sv : Ref Service) (r : ServiceRun) (before : List LogEvent := []) :
    Performed where
  answer := r.answer.map fun _ => .nothing
  session := { p with store := r.store, services := p.services.set sv r.service }
  events := before ++ r.events

/-- A call on the service at a reference; without a service there, nothing. -/
def withService (p : Session) (sv : Ref Service) (f : Service → Performed) : Performed :=
  (p.services.get? sv).elim (p.answered (.ok .nothing)) f

/-- A call on the request at a reference; without a request there, nothing. -/
def withRequest (p : Session) (q : Ref Request) (f : Request → Performed) : Performed :=
  (p.requests.get? q).elim (p.answered (.ok .nothing)) f

/-- One call. -/
def perform (p : Session) : Act → Performed
  | .question f => p.answered ((f p).map .value)
  | .use e => { answer := answerOf p.store e, session := { p with store := p.store.step e } }
  | .load o fs clock dir extensions =>
    let r := o.loadBag fs clock dir extensions
    match r.answer with
    | .error f => p.answered (.error (.fault (.unloadable f))) r.events
    | .ok b =>
      let (bag, store) := p.store.addBag b
      { answer := .ok (.bag bag), session := { p with store := store }, events := r.events }
  | .setLevel name => p.answered (.ok .nothing) (setLevelByName name)
  | .setUp o =>
    match Service.ofOptions o with
    | .error f => p.answered (.error (.fault f))
    | .ok sv =>
      { answer := .ok (.service p.services.fresh)
        session := { p with services := p.services.push sv } }
  | .create env fs clock ended =>
    let r := Service.create env p.store fs clock ended
    match r.answer with
    | .error f =>
      { answer := .error f, session := { p with store := r.store }, events := r.events }
    | .ok sv =>
      { answer := .ok (.service p.services.fresh)
        session := { p with store := r.store, services := p.services.push sv }
        events := r.events }
  | .install sv b => p.withService sv fun s => p.ofRun sv (s.install p.store b)
  | .begin sv =>
    p.withService sv fun s =>
      { answer := .ok (.start s.begin.1)
        session := { p with services := p.services.set sv s.begin.2 } }
  | .finish sv fs clock ended =>
    p.withService sv fun s =>
      if s.loading then
        let loaded := s.load fs clock ended
        p.ofRun sv (s.finish p.store loaded.answer) loaded.events
      else p.answered (.ok .nothing)
  | .translate sv l domain id c =>
    p.withService sv fun s =>
      let r := s.message p.store l domain id c
      { answer := r.1.map .message, session := { p with store := r.2 } }
  | .negotiate sv header =>
    p.withService sv fun s =>
      p.answered (.ok (.locale (s.negotiate header).answer)) (s.negotiate header).events
  | .detect sv h =>
    p.withService sv fun s => p.answered (.ok (.locale (h.detect s).answer)) (h.detect s).events
  | .arrive =>
    { answer := .ok (.request p.requests.fresh)
      session := { p with requests := p.requests.push {} } }
  | .handle q sv h =>
    p.withRequest q fun request =>
      p.withService sv fun s =>
        let r := request.handle s h
        { answer := .ok (.next r.next)
          session := { p with requests := p.requests.set q r.request }
          events := r.events }
  | .ask q domain id c =>
    p.withRequest q fun request =>
      match request.message p.store domain id c with
      | none => p.answered (.ok .nothing)
      | some (answer, store) =>
        { answer := answer.map .message, session := { p with store := store } }

/-- What is there after a call. -/
def after (p : Session) (a : Act) : Session :=
  (p.perform a).session

/-- What is there after a row of calls. -/
def run (p : Session) (acts : List Act) : Session :=
  acts.foldl after p

@[simp] theorem run_nil (p : Session) : p.run [] = p := rfl

@[simp] theorem run_cons (p : Session) (a : Act) (acts : List Act) :
    p.run (a :: acts) = (p.after a).run acts := rfl

end Session

end Phrasebook

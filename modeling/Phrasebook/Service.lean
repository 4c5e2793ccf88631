import Phrasebook.Loading
import Phrasebook.Negotiation
import Phrasebook.Settings.EnvFile
import Phrasebook.Store.Resolver

namespace Phrasebook

/-!
# Services

A service gives an application its messages: it is set up once, gets a bag, and then answers for
any locale.

* `Service.ofOptions`: a service, if its locales are known.
* `Service.install`: a bag put to use.
* `Service.begin`, `Service.finish`: a load begun and ended; `Service.prepare` is both at once.
* `Service.available`, `Service.supports`, `Service.message`, `Service.negotiate`: what it
  answers.
* `Service.create`: a service set up from the environment.
-/

/-- The fallback locale that a service is given. -/
inductive FallbackSetting
  /-- none is stated: the default locale -/
  | asDefault
  /-- no locale -/
  | off
  /-- the one stated -/
  | stated (l : LocaleRef)
  deriving DecidableEq

/-- What a service is set up with. -/
structure ServiceOptions where
  defaultLocale : LocaleRef
  fallback : FallbackSetting := .asDefault
  directory : Option String := none
  extensions : Option (List String) := none
  cacheSize : Option Number.Double := none

/-- A service.  It answers for messages once it has a resolver. -/
structure Service where
  defaultLocale : Locale
  fallback : Option Locale
  directory : Option String := none
  extensions : Option (List String) := none
  cacheSize : Option Number.Double := none
  resolver : Option (Ref Resolver) := none
  /-- whether a load has begun and not ended -/
  loading : Bool := false

/-- The fallback locale that a setting comes to. -/
def FallbackSetting.locale (defaultLocale : Locale) :
    FallbackSetting → Except Fault (Option Locale)
  | asDefault => .ok (some defaultLocale)
  | off => .ok none
  | stated l => l.locale.map some

/-- The options that settings state. -/
def Settings.toOptions (s : Settings) : ServiceOptions where
  defaultLocale := .tagged s.defaultLocale.tag
  fallback :=
    match s.fallback with
    | none => .off
    | some l => .stated (.tagged l.tag)
  directory := some s.directory
  extensions := some s.extensions
  cacheSize := some (.ofInt s.cacheSize)

/-- How a call on a service ends: its answer, the service and the store after it, and what it did
    to the log. -/
structure ServiceRun where
  answer : Except Failure Unit
  service : Service
  store : Store
  events : List LogEvent := []

namespace Service

/-- The service that options set up. -/
def ofOptions (o : ServiceOptions) : Except Fault Service :=
  match o.defaultLocale.locale with
  | .error f => .error f
  | .ok l =>
    (o.fallback.locale l).map fun fallback =>
      { defaultLocale := l
        fallback := fallback
        directory := o.directory
        extensions := o.extensions
        cacheSize := o.cacheSize }

/-- The origin of the lines of a service. -/
def origin : String := "I18N"

/-- Whether a service answers for messages. -/
def isInitialized (sv : Service) : Bool :=
  sv.resolver.isSome

/-! ### Installing a bag -/

/-- A locale as a line shows it. -/
def tagValue (l : Option Locale) : Value :=
  match l with
  | none => .null
  | some l => .text l.tag

/-- What installing a bag tells. -/
def installEvents (sv : Service) (b : Bag) : List LogEvent :=
  (if b.has sv.defaultLocale then []
    else
      [.line { severity := .warn, origin := origin, message := "Default locale has no catalogue",
               context := [("defaultLocale", .text sv.defaultLocale.tag)] }])
    ++
      [.line { severity := .info, origin := origin, message := "I18n service initialized",
               context :=
                 [("defaultLocale", .text sv.defaultLocale.tag),
                  ("fallbackLocale", tagValue sv.fallback),
                  ("locales", .list (b.locales.map fun l => .text l.tag))] }]

/-- A bag put to use with a new resolver.  Only the size of its cache can be refused. -/
def install (sv : Service) (store : Store) (bag : Ref HeldBag) : ServiceRun :=
  match Formatter.ofCapacity sv.cacheSize with
  | .error f => { answer := .error (.capacity f), service := sv, store := store }
  | .ok formatter =>
    let x : Resolver := { bag := bag, fallback := sv.fallback, formatter := formatter }
    let (r, store) := store.addResolver x
    { answer := .ok (), service := { sv with resolver := some r }, store := store
      events := sv.installEvents (store.bagBehind x) }

/-! ### Loading -/

/-- The fault of a service that is to load and has no directory. -/
def noDirectory : Fault :=
  .misconfigured ["translationsDir: a translations directory is required to initialize"]

/-- The bag that the directory of a service makes.  Its files are read at once; unless another
    order is stated, the readings end in the order of the names. -/
def load (sv : Service) (fs : Files) (clock : Clock) (ended : List Nat → List Nat := id) :
    Logged (Except Failure Bag) :=
  match sv.directory with
  | none | some "" => { answer := .error (.fault noDirectory) }
  | some dir =>
    let r := loadBagInParallel ended fs clock dir
      (sv.extensions.getD MessageFile.defaultExtensions)
    { answer := r.answer.mapError fun f => .fault (.unloadable f), events := r.events }

/-- What a call for messages meets. -/
inductive Start
  /-- messages are there -/
  | ready
  /-- a load is under way, which the call waits for -/
  | joined
  /-- the call begins a load -/
  | began
  deriving DecidableEq, Repr

/-- A call for messages: it begins a load unless messages are there or under way. -/
def begin (sv : Service) : Start × Service :=
  if sv.isInitialized then (.ready, sv)
  else if sv.loading then (.joined, sv)
  else (.began, { sv with loading := true })

/-- The end of a load: the bag that was loaded is installed. -/
def finish (sv : Service) (store : Store) : Except Failure Bag → ServiceRun
  | .error f => { answer := .error f, service := { sv with loading := false }, store := store }
  | .ok b =>
    let (bag, withBag) := store.addBag b
    let r := { sv with loading := false }.install withBag bag
    match r.answer with
    | .ok () => r
    | .error _ => { r with store := store }

/-- A call for messages, waited for. -/
def prepare (sv : Service) (store : Store) (fs : Files) (clock : Clock)
    (ended : List Nat → List Nat := id) : ServiceRun :=
  match sv.begin with
  | (.ready, sv) => { answer := .ok (), service := sv, store := store }
  | (_, sv) =>
    let loaded := sv.load fs clock ended
    let r := sv.finish store loaded.answer
    { r with events := loaded.events ++ r.events }

/-! ### Answers -/

/-- The resolver of a service, as it is now. -/
def resolver? (sv : Service) (store : Store) : Option Resolver :=
  sv.resolver.bind store.resolver?

/-- The reference to the resolver of a service. -/
def resolverRef (sv : Service) : Except Failure (Ref Resolver) :=
  match sv.resolver with
  | some r => .ok r
  | none => .error .uninitialized

/-- The locales that a service has messages for, in canonical order. -/
def available (sv : Service) (store : Store) : List Locale :=
  ((sv.resolver? store).map fun x => (store.bagBehind x).locales).getD []

/-- Whether a service has messages for the locale of a tag, or for its language. -/
def supports (sv : Service) (store : Store) (tag : String) : Bool :=
  match Locale.ofTag? tag, sv.resolver? store with
  | some l, some x => l.chain.any (store.bagBehind x).has
  | _, _ => false

/-- The message of a domain and an id for a locale, and the store after it. -/
def message (sv : Service) (store : Store) (l : LocaleRef) (domain id : String) (c : Context) :
    Except Failure String × Store :=
  match sv.resolver, l.locale with
  | none, _ => (.error .uninitialized, store)
  | some _, .error f => (.error (.fault f), store)
  | some r, .ok l =>
    match store.message r l domain id c with
    | none => (.error .uninitialized, store)
    | some (answer, store) => (answer.map Rendered.message, store)

/-- The locale for the languages that a reader prefers: that of the most preferred range that names
    one, else the default locale. -/
def negotiate (sv : Service) (header : Option String) : Logged Locale :=
  match header with
  | none | some "" => { answer := sv.defaultLocale }
  | some header =>
    match preferred? header with
    | none => { answer := sv.defaultLocale }
    | some l =>
      { answer := l
        events :=
          [.line { severity := .debug, origin := origin, message := "Negotiated locale",
                   context := [("header", .text header), ("locale", .text l.tag)] }] }

end Service

/-! ### From the environment to a service -/

/-- How setting up a service ends. -/
structure CreateRun where
  answer : Except Failure Service
  store : Store
  events : List LogEvent := []

/-- A service set up from the environment, with its messages loaded.  The level that the settings
    name is in force from then on.  Unless another order is stated, the readings of files end in
    the order of their names. -/
def Service.create (env : Environment) (store : Store) (fs : Files) (clock : Clock)
    (ended : List Nat → List Nat := id) : CreateRun :=
  match Settings.ofEnvironment env with
  | .error f => { answer := .error (.fault f), store := store }
  | .ok settings =>
    let level := setLevelByName settings.level.name
    match Service.ofOptions settings.toOptions with
    | .error f => { answer := .error (.fault f), store := store, events := level }
    | .ok sv =>
      let r := sv.prepare store fs clock ended
      { answer := r.answer.map fun _ => r.service, store := r.store
        events := level ++ r.events }

end Phrasebook

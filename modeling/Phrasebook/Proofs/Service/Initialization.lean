import Phrasebook.Proofs.Loading.Stages
import Phrasebook.Proofs.Service.Lifecycle
import Phrasebook.Proofs.Store.History
import Phrasebook.Proofs.Store.Values

namespace Phrasebook

/-!
# From set up to initialized

A service that was set up answers for nothing until it gets a bag.  Getting one may fail for many
reasons and may be tried again; once it succeeded, calls for messages do nothing any more.

* `Service.Loads`: the bag that the directory of a service makes.
* `Service.prepare_cases`: what a call for messages comes to.
* `Site`, `Site.Act`, `Site.run`: a service with a store and files, and what happens there.
* `Site.Steady`, `Site.steady_run`: what holds of a service at any time.
* `Site.isInitialized_run_iff`: a service is initialized as soon as one act of a run succeeded.
* `Site.initialization_spec`: what a service answers before and after that, and what a failure
  leaves behind.
-/

/-! ### Calls for messages -/

namespace Service

/-- The directory of a service can be loaded now, and makes this bag. -/
def Loads (sv : Service) (fs : Files) (clock : Clock) (ended : List Nat → List Nat) (b : Bag) :
    Prop :=
  ∃ dir, sv.directory = some dir ∧ dir ≠ "" ∧
    (loadBagInParallel ended fs clock dir
      (sv.extensions.getD MessageFile.defaultExtensions)).answer = .ok b

section

variable {sv : Service} (store : Store) (fs : Files) (clock : Clock) (ended : List Nat → List Nat)

/-- A service loads the bags that it is said to load. -/
theorem load_eq_ok_iff {b : Bag} :
    (sv.load fs clock ended).answer = .ok b ↔ sv.Loads fs clock ended b := by
  rw [load, Loads]
  split
  · next hdir => simp [hdir]
  · next hdir => simp [hdir]
  · next dir hempty hdir =>
    have hne : dir ≠ "" := hempty
    simp only [hdir, Option.some.injEq, exists_eq_left']
    cases (loadBagInParallel ended fs clock dir
      (sv.extensions.getD MessageFile.defaultExtensions)).answer <;>
      simp [Except.mapError, hne]

/-- What a load that ended answers: it fails with its own fault, or where the cache is refused. -/
theorem answer_finish (loaded : Except Failure Bag) :
    (sv.finish store loaded).answer = loaded.bind fun _ =>
      ((Formatter.ofCapacity sv.cacheSize).mapError .capacity).map fun _ => () := by
  cases loaded with
  | error f => rfl
  | ok b =>
    cases hf : Formatter.ofCapacity sv.cacheSize with
    | error e =>
      obtain ⟨hanswer, -⟩ :=
        install_of_error { sv with loading := false } hf (store.addBag b).2 (store.addBag b).1
      simp only [finish, hanswer]
      rfl
    | ok f =>
      obtain ⟨hanswer, -⟩ :=
        install_of_ok { sv with loading := false } hf (store.addBag b).2 (store.addBag b).1
      simp only [finish, hanswer]
      rfl

/-- What a call for messages comes to: nothing where they are there; a failure that changes nothing;
    or a new resolver over the bag that was loaded. -/
theorem prepare_cases (hloading : sv.loading = false) :
    let r := sv.prepare store fs clock ended
    (sv.isInitialized = true ∧ r = { answer := .ok (), service := sv, store := store }) ∨
    (sv.isInitialized = false ∧ (∃ f, r.answer = .error f) ∧ r.service = sv ∧ r.store = store ∧
      ¬ ((∃ b, sv.Loads fs clock ended b) ∧ ∃ f, Formatter.ofCapacity sv.cacheSize = .ok f)) ∨
    (sv.isInitialized = false ∧ ∃ b f, sv.Loads fs clock ended b ∧
      Formatter.ofCapacity sv.cacheSize = .ok f ∧ r.answer = .ok () ∧
      r.service = { sv with resolver := some store.resolvers.fresh } ∧
      r.store = ((store.addBag b).2.addResolver
        { bag := (store.addBag b).1, fallback := sv.fallback, formatter := f }).2) := by
  intro r
  -- the mark of a load under way is taken away when the call ends
  have hidle : { { sv with loading := true } with loading := false } = sv := by
    cases sv
    cases hloading
    rfl
  cases hready : sv.isInitialized with
  | true =>
    refine Or.inl ⟨rfl, ?_⟩
    show sv.prepare store fs clock ended = _
    rw [prepare, begin_of_isInitialized hready]
  | false =>
    have hbegin : sv.begin = (.began, { sv with loading := true }) := by
      rw [begin, hready, hloading]
      rfl
    have hload : ({ sv with loading := true } : Service).load fs clock ended
        = sv.load fs clock ended := rfl
    -- so the answer is that of the load, ended by a service that is marked
    let began : Service := { sv with loading := true }
    have hanswer : r.answer = (began.finish store (sv.load fs clock ended).answer).answer := by
      simp only [r, prepare, hbegin, hload, began]
    have hservice : r.service = (began.finish store (sv.load fs clock ended).answer).service := by
      simp only [r, prepare, hbegin, hload, began]
    have hstore : r.store = (began.finish store (sv.load fs clock ended).answer).store := by
      simp only [r, prepare, hbegin, hload, began]
    rw [hanswer, hservice, hstore, answer_finish]
    cases hloaded : (sv.load fs clock ended).answer with
    | error f =>
      refine Or.inr (Or.inl ⟨rfl, ⟨f, rfl⟩, hidle, rfl, ?_⟩)
      rintro ⟨⟨b, hb⟩, -⟩
      exact absurd (hloaded.symm.trans ((load_eq_ok_iff fs clock ended).2 hb)) (by simp)
    | ok b =>
      cases hf : Formatter.ofCapacity sv.cacheSize with
      | error e =>
        have hrefused : Formatter.ofCapacity began.cacheSize = .error e := hf
        obtain ⟨hservice, hstore⟩ := finish_of_error hrefused store b
        refine Or.inr (Or.inl ⟨rfl, ⟨.capacity e, rfl⟩, hservice.trans hidle, hstore, ?_⟩)
        rintro ⟨-, f, hok⟩
        exact absurd hok (by simp)
      | ok f =>
        have haccepted : Formatter.ofCapacity began.cacheSize = .ok f := hf
        obtain ⟨hservice, hstore⟩ := finish_of_ok haccepted store b
        refine Or.inr (Or.inr ⟨rfl, b, f, (load_eq_ok_iff fs clock ended).1 hloaded, rfl, rfl, ?_,
          hstore⟩)
        rw [hservice]
        exact congrArg (fun sv' : Service => { sv' with resolver := some store.resolvers.fresh })
          hidle

end

/-- Asking for a message changes at most one resolver. -/
theorem eq_or_setResolver_of_message (sv : Service) (store : Store) (l : LocaleRef)
    (domain id : String) (c : Context) :
    (sv.message store l domain id c).2 = store ∨
      ∃ r x, (sv.message store l domain id c).2 = store.setResolver r x := by
  rw [message]
  split
  · exact Or.inl rfl
  · exact Or.inl rfl
  · next r l _ _ =>
    cases hmessage : store.message r l domain id c with
    | none => exact Or.inl rfl
    | some p =>
      obtain ⟨x, -, hx⟩ := Option.map_eq_some_iff.1 hmessage
      exact Or.inr ⟨r, (store.renderWith x l domain id c).2, by rw [← hx]⟩

end Service

/-! ### Where a service runs -/

/-- A service where it runs: with the store that it shares, and the files as they are now. -/
structure Site where
  service : Service
  store : Store
  files : Files

namespace Site

/-- What can happen where a service runs, one thing after another.  Of all that a service can be
    asked, only asking for a message changes anything. -/
inductive Act
  /-- the service is called for messages; the readings end in this order -/
  | prepare (clock : Clock) (ended : List Nat → List Nat)
  /-- a bag is installed -/
  | install (b : Ref HeldBag)
  /-- the service is asked for a message -/
  | translate (l : LocaleRef) (domain id : String) (c : Context)
  /-- other files take the place of those that are there -/
  | replace (files : Files)
  /-- catalogues, bags and resolvers are used elsewhere -/
  | elsewhere (e : Event)

/-- Whether a bag is installed. -/
def Act.isInstall : Act → Bool
  | install _ => true
  | _ => false

/-- What an act answers that is to give the service messages. -/
def answer? (p : Site) : Act → Option (Except Failure Unit)
  | .prepare clock ended => some (p.service.prepare p.store p.files clock ended).answer
  | .install b => some (p.service.install p.store b).answer
  | .translate .. | .replace _ | .elsewhere _ => none

/-- How things are after an act. -/
def after (p : Site) : Act → Site
  | .prepare clock ended =>
    let r := p.service.prepare p.store p.files clock ended
    { p with service := r.service, store := r.store }
  | .install b =>
    let r := p.service.install p.store b
    { p with service := r.service, store := r.store }
  | .translate l domain id c => { p with store := (p.service.message p.store l domain id c).2 }
  | .replace files => { p with files := files }
  | .elsewhere e => { p with store := p.store.step e }

/-- How things are after a row of acts. -/
def run (p : Site) (acts : List Act) : Site :=
  acts.foldl after p

/-- An act of the row gives the service messages. -/
def Succeeds (p : Site) : List Act → Prop
  | [] => False
  | act :: acts => p.answer? act = some (.ok ()) ∨ (p.after act).Succeeds acts

@[simp] theorem run_nil (p : Site) : p.run [] = p := rfl

@[simp] theorem run_cons (p : Site) (act : Act) (acts : List Act) :
    p.run (act :: acts) = (p.after act).run acts := rfl

/-! ### What holds at any time -/

/-- What holds of a service at any time, given what was set up: only its resolver has changed, which
    is one of the store, and the size of the cache was accepted for it. -/
structure Steady (sv : Service) (p : Site) : Prop where
  service : p.service = { sv with resolver := p.service.resolver }
  owned : p.store.Owned
  sound : Service.Sound (p.service, p.store)

variable {sv : Service} {p : Site}

/-- A new service is steady, whatever was done to the store before. -/
theorem steady_ofOptions {o : ServiceOptions} (h : Service.ofOptions o = .ok sv)
    (before : List Event) (files : Files) : Steady sv ⟨sv, Store.empty.run before, files⟩ where
  service := rfl
  owned := Store.owned_run before
  sound := Service.sound_ofOptions h _

namespace Steady

/-- A steady service that was not loading is not loading. -/
theorem loading (h : Steady sv p) (hsv : sv.loading = false) : p.service.loading = false := by
  rw [h.service]
  exact hsv

/-- A steady service keeps the size of its cache. -/
theorem cacheSize (h : Steady sv p) : p.service.cacheSize = sv.cacheSize := by
  rw [h.service]

/-- A steady service loads what it would have loaded at first. -/
theorem loads_iff (h : Steady sv p) {clock : Clock} {ended : List Nat → List Nat} {b : Bag} :
    p.service.Loads p.files clock ended b ↔ sv.Loads p.files clock ended b := by
  rw [h.service]
  exact Iff.rfl

/-- A change of the store that keeps bags and resolvers. -/
theorem of_store (h : Steady sv p) {store : Store} (howned : store.Owned)
    (hresolvers : ∀ r, (p.store.resolver? r).isSome = true → (store.resolver? r).isSome = true) :
    Steady sv { p with store := store } where
  service := h.service
  owned := howned
  sound := fun r hr => ⟨hresolvers r (h.sound r hr).1, (h.sound r hr).2⟩

/-- A new resolver put in place. -/
theorem of_addResolver (h : Steady sv p) {store : Store} (howned : store.Owned) {x : Resolver}
    {f : Formatter} (hf : Formatter.ofCapacity p.service.cacheSize = .ok f)
    (hfresh : store.resolvers.fresh = p.store.resolvers.fresh) :
    Steady sv { p with
      service := { p.service with resolver := some p.store.resolvers.fresh }
      store := (store.addResolver x).2 } where
  service := by rw [h.service]
  owned := howned.of_resolvers rfl rfl
  sound := by
    intro r hr
    obtain rfl := Option.some.inj hr
    -- bags take no places among the resolvers, so the new one stands where it was to
    have hthere := store.resolver?_addResolver x
    rw [← hfresh]
    exact ⟨Option.isSome_iff_exists.2 ⟨x, hthere⟩, f, hf⟩

end Steady

/-- What a call for messages comes to where a service runs. -/
theorem after_prepare_cases (h : Steady sv p) (hsv : sv.loading = false) (clock : Clock)
    (ended : List Nat → List Nat) :
    (p.service.isInitialized = true ∧ p.answer? (.prepare clock ended) = some (.ok ()) ∧
      p.after (.prepare clock ended) = p) ∨
    (p.service.isInitialized = false ∧
      (∃ f, p.answer? (.prepare clock ended) = some (.error f)) ∧
      p.after (.prepare clock ended) = p ∧ ¬ ((∃ b, sv.Loads p.files clock ended b) ∧
        ∃ f, Formatter.ofCapacity sv.cacheSize = .ok f)) ∨
    (p.service.isInitialized = false ∧ ∃ b f, sv.Loads p.files clock ended b ∧
      Formatter.ofCapacity sv.cacheSize = .ok f ∧
      p.answer? (.prepare clock ended) = some (.ok ()) ∧
      p.after (.prepare clock ended) = { p with
        service := { p.service with resolver := some p.store.resolvers.fresh }
        store := ((p.store.addBag b).2.addResolver
          { bag := (p.store.addBag b).1, fallback := p.service.fallback,
            formatter := f }).2 }) := by
  rcases Service.prepare_cases p.store p.files clock ended (h.loading hsv) with ⟨hready, hr⟩ |
    ⟨hready, ⟨f, hanswer⟩, hservice, hstore, hnot⟩ |
    ⟨hready, b, f, hb, hf, hanswer, hservice, hstore⟩
  · refine Or.inl ⟨hready, ?_, ?_⟩
    · rw [answer?, hr]
    · rw [after, hr]
  · simp only [h.loads_iff, h.cacheSize] at hnot
    refine Or.inr (Or.inl ⟨hready, ⟨f, ?_⟩, ?_, hnot⟩)
    · rw [answer?, hanswer]
    · rw [after, hservice, hstore]
  · refine Or.inr (Or.inr ⟨hready, b, f, h.loads_iff.1 hb, h.cacheSize ▸ hf, ?_, ?_⟩)
    · rw [answer?, hanswer]
    · rw [after, hservice, hstore]

/-- What installing a bag comes to where a service runs. -/
theorem after_install_cases (h : Steady sv p) (b : Ref HeldBag) :
    (∃ e, Formatter.ofCapacity sv.cacheSize = .error e ∧
      p.answer? (.install b) = some (.error (.capacity e)) ∧ p.after (.install b) = p) ∨
    ∃ f, Formatter.ofCapacity sv.cacheSize = .ok f ∧ p.answer? (.install b) = some (.ok ()) ∧
      p.after (.install b) = { p with
        service := { p.service with resolver := some p.store.resolvers.fresh }
        store := (p.store.addResolver
          { bag := b, fallback := p.service.fallback, formatter := f }).2 } := by
  rw [← h.cacheSize]
  cases hf : Formatter.ofCapacity p.service.cacheSize with
  | error e =>
    obtain ⟨hanswer, hservice, hstore⟩ := Service.install_of_error p.service hf p.store b
    refine Or.inl ⟨e, rfl, ?_, ?_⟩
    · rw [answer?, hanswer]
    · rw [after, hservice, hstore]
  | ok f =>
    obtain ⟨hanswer, hservice, hstore⟩ := Service.install_of_ok p.service hf p.store b
    refine Or.inr ⟨f, rfl, ?_, ?_⟩
    · rw [answer?, hanswer]
    · rw [after, hservice, hstore]

/-- One act. -/
theorem steady_after (hsv : sv.loading = false) (h : Steady sv p) (act : Act) :
    Steady sv (p.after act) := by
  cases act with
  | prepare clock ended =>
    -- ready already, failed, or loaded: a resolver is added in the last case alone
    rcases after_prepare_cases h hsv clock ended with ⟨-, -, heq⟩ | ⟨-, -, heq, -⟩ |
      ⟨-, b, f, -, hf, -, heq⟩
    · rw [heq]
      exact h
    · rw [heq]
      exact h
    · rw [heq]
      exact h.of_addResolver (h.owned.addBag b) (h.cacheSize ▸ hf)
        (congrArg Arena.fresh (Store.resolvers_addBag p.store b))
  | install b =>
    -- the bag is put in, unless the size of the cache is refused
    rcases after_install_cases h b with ⟨e, -, -, heq⟩ | ⟨f, hf, -, heq⟩
    · rw [heq]
      exact h
    · rw [heq]
      exact h.of_addResolver h.owned (h.cacheSize ▸ hf) rfl
  | translate l domain id c =>
    -- a message moves the cache of a resolver that exists
    rcases Service.eq_or_setResolver_of_message p.service p.store l domain id c with
      heq | ⟨r, x, heq⟩
    · rw [after, heq]
      exact h
    · rw [after, heq]
      exact h.of_store (h.owned.of_resolvers rfl rfl)
        fun r' hr' => Store.isSome_resolver?_setResolver hr' r x
  | replace files => exact ⟨h.service, h.owned, h.sound⟩
  | elsewhere e =>
    exact h.of_store (Store.owned_step p.store e h.owned)
      fun r hr => Store.isSome_resolver?_step hr e

/-- Every run. -/
theorem steady_run (hsv : sv.loading = false) (h : Steady sv p) (acts : List Act) :
    Steady sv (p.run acts) := by
  induction acts generalizing p with
  | nil => exact h
  | cons act acts ih => exact ih (steady_after hsv h act)

/-! ### Before and after a success -/

/-- An act makes a service initialized just where it succeeds. -/
theorem isInitialized_after_iff (hsv : sv.loading = false) (h : Steady sv p) (act : Act) :
    (p.after act).service.isInitialized = true ↔
      p.service.isInitialized = true ∨ p.answer? act = some (.ok ()) := by
  cases act with
  | prepare clock ended =>
    rcases after_prepare_cases h hsv clock ended with ⟨hready, hanswer, heq⟩ |
      ⟨hready, ⟨f, hanswer⟩, heq, -⟩ | ⟨-, b, f, -, -, hanswer, heq⟩
    · rw [heq]
      exact iff_of_true hready (Or.inl hready)
    · rw [heq, hanswer, hready]
      simp
    · rw [heq]
      exact iff_of_true rfl (Or.inr hanswer)
  | install b =>
    rcases after_install_cases h b with ⟨e, -, hanswer, heq⟩ | ⟨f, -, hanswer, heq⟩
    · rw [heq, hanswer]
      simp
    · rw [heq]
      exact iff_of_true rfl (Or.inr hanswer)
  | translate | replace | elsewhere => simp [after, answer?]

/-- A service is initialized as soon as one act succeeded. -/
theorem isInitialized_run_iff (hsv : sv.loading = false) (h : Steady sv p) (acts : List Act) :
    (p.run acts).service.isInitialized = true ↔
      p.service.isInitialized = true ∨ p.Succeeds acts := by
  -- each act is the first of what is left, from a site that is steady again
  induction acts generalizing p with
  | nil => simp [Succeeds]
  | cons act acts ih =>
    rw [run_cons, ih (steady_after hsv h act), isInitialized_after_iff hsv h act, Succeeds,
      or_assoc]

/-- An act that fails changes nothing. -/
theorem after_of_error (hsv : sv.loading = false) (h : Steady sv p) {act : Act} {f : Failure}
    (hf : p.answer? act = some (.error f)) : p.after act = p := by
  cases act with
  | prepare clock ended =>
    rcases after_prepare_cases h hsv clock ended with ⟨-, -, heq⟩ | ⟨-, -, heq, -⟩ |
      ⟨-, b, f, -, -, hanswer, -⟩
    · exact heq
    · exact heq
    · rw [hanswer] at hf
      exact absurd hf (by simp)
  | install b =>
    rcases after_install_cases h b with ⟨e, -, -, heq⟩ | ⟨f, -, hanswer, -⟩
    · exact heq
    · rw [hanswer] at hf
      exact absurd hf (by simp)
  | translate | replace | elsewhere => exact absurd hf (by simp [answer?])

/-- Once a service is initialized, only an installation replaces its resolver. -/
theorem resolver_after (hsv : sv.loading = false) (h : Steady sv p) {act : Act}
    (hready : p.service.isInitialized = true) (hact : act.isInstall = false) :
    (p.after act).service.resolver = p.service.resolver := by
  cases act with
  | prepare clock ended =>
    rcases after_prepare_cases h hsv clock ended with ⟨-, -, heq⟩ | ⟨-, -, heq, -⟩ |
      ⟨hnot, -⟩
    · rw [heq]
    · rw [heq]
    · rw [hready] at hnot
      exact absurd hnot (by simp)
  | install b => exact absurd hact (by simp [Act.isInstall])
  | translate | replace | elsewhere => rfl

/-- Without installations, a service that is initialized keeps its resolver. -/
theorem resolver_run (hsv : sv.loading = false) (h : Steady sv p) {acts : List Act}
    (hready : p.service.isInitialized = true) (hacts : ∀ act ∈ acts, act.isInstall = false) :
    (p.run acts).service.resolver = p.service.resolver := by
  induction acts generalizing p with
  | nil => rfl
  | cons act acts ih =>
    have hsame := resolver_after hsv h hready (hacts act List.mem_cons_self)
    have hready' : (p.after act).service.isInitialized = true := by
      rw [Service.isInitialized, hsame]
      exact hready
    rw [run_cons, ih (steady_after hsv h act) hready'
      fun act' hact' => hacts act' (List.mem_cons_of_mem act hact'), hsame]

/-- A service without a resolver answers for nothing. -/
theorem answers_of_not_isInitialized (h : p.service.isInitialized = false) :
    p.service.resolverRef = .error .uninitialized ∧
      (∀ l domain id c,
        p.service.message p.store l domain id c = (.error .uninitialized, p.store)) ∧
      p.service.available p.store = [] ∧ ∀ tag, p.service.supports p.store tag = false := by
  have hnone : p.service.resolver = none := Option.not_isSome_iff_eq_none.1 (by
    rw [Bool.not_eq_true]
    exact h)
  have hresolver : p.service.resolver? p.store = none := by
    rw [Service.resolver?, hnone]
    rfl
  refine ⟨?_, fun l domain id c => ?_, ?_, fun tag => ?_⟩
  · rw [Service.resolverRef, hnone]
  · rw [Service.message, hnone]
  · rw [Service.available, hresolver]
    rfl
  · rw [Service.supports, hresolver]
    cases Locale.ofTag? tag <;> rfl

/-- A call for messages succeeds just where the directory can be loaded now and the size of the
    cache is accepted. -/
theorem answer?_prepare_iff (hsv : sv.loading = false) (h : Steady sv p)
    (hready : p.service.isInitialized = false) (clock : Clock) (ended : List Nat → List Nat) :
    p.answer? (.prepare clock ended) = some (.ok ()) ↔
      (∃ b, sv.Loads p.files clock ended b) ∧
        ∃ f, Formatter.ofCapacity sv.cacheSize = .ok f := by
  rcases after_prepare_cases h hsv clock ended with ⟨hready', -⟩ | ⟨-, ⟨f, hanswer⟩, -, hnot⟩ |
    ⟨-, b, f, hb, hf, hanswer, -⟩
  · rw [hready] at hready'
    exact absurd hready' (by simp)
  · rw [hanswer]
    exact iff_of_false (by simp) hnot
  · exact iff_of_true hanswer ⟨⟨b, hb⟩, f, hf⟩

/-- After a call for messages that loads, the service resolves with the bag that was loaded. -/
theorem resolver?_after_prepare (hsv : sv.loading = false) (h : Steady sv p)
    (hready : p.service.isInitialized = false) {clock : Clock} {ended : List Nat → List Nat}
    {b : Bag} (hb : sv.Loads p.files clock ended b) {f : Formatter}
    (hf : Formatter.ofCapacity sv.cacheSize = .ok f) :
    ∃ x, (p.after (.prepare clock ended)).service.resolver?
        (p.after (.prepare clock ended)).store = some x ∧
      x.fallback = sv.fallback ∧ x.formatter = f ∧
      (p.after (.prepare clock ended)).store.bag? x.bag = some b := by
  rcases after_prepare_cases h hsv clock ended with ⟨hready', -⟩ | ⟨-, -, -, hnot⟩ |
    ⟨-, b', f', hb', hf', -, heq⟩
  · rw [hready] at hready'
    exact absurd hready' (by simp)
  · exact absurd ⟨⟨b, hb⟩, f, hf⟩ hnot
  · obtain ⟨dir, hdir, -, hloaded⟩ := hb
    obtain ⟨dir', hdir', -, hloaded'⟩ := hb'
    -- the directory makes one bag
    obtain rfl := Option.some.inj (hdir.symm.trans hdir')
    obtain rfl := Except.ok.inj (hloaded.symm.trans hloaded')
    obtain rfl := Except.ok.inj (hf.symm.trans hf')
    rw [heq]
    let x : Resolver :=
      { bag := (p.store.addBag b).1, fallback := p.service.fallback, formatter := f }
    have hfresh : (p.store.addBag b).2.resolvers.fresh = p.store.resolvers.fresh := by
      rw [Store.resolvers_addBag]
    have hthere := (p.store.addBag b).2.resolver?_addResolver x
    refine ⟨x, ?_, ?_, rfl, ?_⟩
    · show ((p.store.addBag b).2.addResolver x).2.resolver? p.store.resolvers.fresh = some x
      rw [← hfresh]
      exact hthere
    · show p.service.fallback = sv.fallback
      rw [h.service]
    · exact (Store.bag?_congr rfl rfl _).trans
        (Store.bag?_addBag h.owned (keyed_of_loadBagBy hloaded))

/-- Where an act succeeded, and nowhere else, a service answers for messages.  Until then it answers
    for nothing, and a call for messages succeeds just where its directory can be loaded as the
    files are now; it then resolves with the bag that was loaded.  From then on a call for messages
    does nothing whatever the files are, and no act but an installation replaces its resolver.  An
    act that fails changes nothing at all. -/
theorem initialization_spec {o : ServiceOptions} {sv : Service}
    (hsv : Service.ofOptions o = .ok sv) (before : List Event) (files : Files)
    (acts : List Act) :
    let start : Site := ⟨sv, Store.empty.run before, files⟩
    let p := start.run acts
    (p.service.isInitialized = true ↔ start.Succeeds acts) ∧
    (¬ start.Succeeds acts →
      p.service.resolverRef = .error .uninitialized ∧
      (∀ l domain id c,
        p.service.message p.store l domain id c = (.error .uninitialized, p.store)) ∧
      p.service.available p.store = [] ∧ (∀ tag, p.service.supports p.store tag = false) ∧
      ∀ clock ended,
        (p.answer? (.prepare clock ended) = some (.ok ()) ↔
          (∃ b, sv.Loads p.files clock ended b) ∧
            ∃ f, Formatter.ofCapacity sv.cacheSize = .ok f) ∧
        ∀ b f, sv.Loads p.files clock ended b → Formatter.ofCapacity sv.cacheSize = .ok f →
          let t := p.after (.prepare clock ended)
          ∃ x, t.service.resolver? t.store = some x ∧ x.fallback = sv.fallback ∧
            x.formatter = f ∧ t.store.bag? x.bag = some b) ∧
    (start.Succeeds acts → ∃ r x, p.service.resolverRef = .ok r ∧ p.store.resolver? r = some x ∧
      (∀ fs clock ended, p.service.prepare p.store fs clock ended
        = { answer := .ok (), service := p.service, store := p.store, events := [] }) ∧
      ∀ more, (∀ act ∈ more, act.isInstall = false) →
        (p.run more).service.resolverRef = .ok r) ∧
    (∀ b, p.answer? (.install b) = some (.ok ()) ↔
      ∃ f, Formatter.ofCapacity sv.cacheSize = .ok f) ∧
    ∀ act f, p.answer? act = some (.error f) → p.after act = p := by
  intro start p
  obtain ⟨hnone, hloading⟩ := Service.idle_of_ofOptions hsv
  -- what holds at any time decides all the rest
  have hstart : Steady sv start := steady_ofOptions hsv before files
  have hp : Steady sv p := steady_run hloading hstart acts
  have hready : p.service.isInitialized = true ↔ start.Succeeds acts := by
    have hnot : start.service.isInitialized = false := by
      show sv.resolver.isSome = false
      rw [hnone]
      rfl
    rw [isInitialized_run_iff hloading hstart acts, hnot]
    simp
  refine ⟨hready, fun hnot => ?_, fun hsucceeds => ?_, fun b => ?_,
    fun act f hf => after_of_error hloading hp hf⟩
  · have hnotReady : p.service.isInitialized = false := by
      rw [← Bool.not_eq_true]
      exact mt hready.1 hnot
    obtain ⟨hresolver, hmessage, havailable, hsupports⟩ :=
      answers_of_not_isInitialized hnotReady
    exact ⟨hresolver, hmessage, havailable, hsupports, fun clock ended =>
      ⟨answer?_prepare_iff hloading hp hnotReady clock ended,
        fun b f hb hf => resolver?_after_prepare hloading hp hnotReady hb hf⟩⟩
  · have hisReady := hready.2 hsucceeds
    obtain ⟨r, hr⟩ := Option.isSome_iff_exists.1 hisReady
    obtain ⟨x, hx⟩ := Option.isSome_iff_exists.1 (hp.sound r hr).1
    refine ⟨r, x, ?_, hx, fun fs clock ended => ?_, fun more hmore => ?_⟩
    · rw [Service.resolverRef, hr]
    · rw [Service.prepare, Service.begin_of_isInitialized hisReady]
    · have hsame := resolver_run hloading hp hisReady hmore
      rw [Service.resolverRef, hsame, hr]
  · rcases after_install_cases hp b with ⟨e, hf, hanswer, -⟩ | ⟨f, hf, hanswer, -⟩
    · rw [hanswer, hf]
      simp
    · exact iff_of_true hanswer ⟨f, hf⟩

/-- A directory with one file of messages. -/
def oneFile : Files :=
  { nodes := ⟨[(["srv".toList], .directory), (["srv".toList, "t".toList], .directory),
      (["srv".toList, "t".toList, "m.aa.json".toList],
        .file (.ok (Text.octets "\x7b\"a\":\"1\"\x7d".toList)))],
      by decide +kernel⟩ }

/-- The file can be loaded. -/
theorem exists_loadBagInParallel_oneFile (clock : Clock) :
    ∃ b, (loadBagInParallel id oneFile clock "/srv/t" ["json"]).answer = .ok b := by
  let file : MessageFile := ⟨"/srv/t/m.aa.json", "m", default⟩
  let content := "\x7b\"a\":\"1\"\x7d"
  have hlist : oneFile.list "/srv/t" = .ok [⟨"m.aa.json", true⟩] :=
    toOption_eq_some_iff.1 (by decide +kernel)
  have hnames : regularNames [⟨"m.aa.json", true⟩] = ["m.aa.json"] := by
    simp [regularNames, Text.sortNames]
  have hfiles : messageFiles oneFile "/srv/t" ["json"] = .ok [file] := by
    rw [messageFiles, hlist]
    show filesOfNames "/srv/t" ["json"] (regularNames [⟨"m.aa.json", true⟩]) = _
    rw [hnames]
    exact toOption_eq_some_iff.1 (by decide +kernel)
  have hread : oneFile.read "/srv/t/m.aa.json" = .ok content :=
    toOption_eq_some_iff.1 (by decide +kernel)
  have hload : loadFilesInParallel oneFile id [file] = .ok [⟨file, content⟩] := by
    simp [loadFilesInParallel, Gathered.arrive, MessageFile.load, hread, file, Except.map]
  have hmessages : readMessages content "/srv/t/m.aa.json" = .ok [("a", "1")] :=
    toOption_eq_some_iff.1 (by decide +kernel)
  have hcatalogue : LoadedFile.catalogue ⟨file, content⟩ = .ok (file.catalogue [("a", "1")]) :=
    LoadedFile.catalogue_eq_ok_iff.2 ⟨_, hmessages, rfl⟩
  refine ⟨Bag.empty.insertList [file.catalogue [("a", "1")]], ?_⟩
  rw [loadBagInParallel, answer_loadBagBy, hfiles]
  show (loadFilesInParallel oneFile id [file]).bind _ = _
  rw [hload]
  show (List.mapM LoadedFile.catalogue [⟨file, content⟩]).map Bag.empty.insertList = _
  rw [List.mapM_cons, hcatalogue]
  rfl

/-- A service that fails to load its directory loads it once the directory is there, and keeps what
    it has when the directory is gone. -/
theorem initialization_spec_retried :
    let o : ServiceOptions := { defaultLocale := .known default, directory := some "/srv/t" }
    let sv : Service :=
      { defaultLocale := default, fallback := some default, directory := some "/srv/t" }
    let clock : Clock := ⟨.ofInt 0, []⟩
    let start : Site := ⟨sv, Store.empty, Files.empty⟩
    let acts : List Act := [.prepare clock id, .replace oneFile, .prepare clock id]
    let p := start.run acts
    Service.ofOptions o = .ok sv ∧
      start.answer? (.prepare clock id) ≠ some (.ok ()) ∧ start.Succeeds acts ∧
      ∃ r, p.service.resolverRef = .ok r ∧
        (p.run [.replace Files.empty, .prepare clock id]).service.resolverRef = .ok r := by
  intro o sv clock start acts p
  have hsv : Service.ofOptions o = .ok sv := rfl
  have hmissing : ∀ b, ¬ sv.Loads Files.empty clock id b := by
    rintro b ⟨dir, hdir, -, hloaded⟩
    obtain rfl := Option.some.inj hdir
    have hlist : Files.empty.list "/srv/t" = .error (.missing .scandir "/srv/t") :=
      faultOf_eq_some_iff.1 (by decide +kernel)
    rw [loadBagInParallel, answer_loadBagBy, messageFiles, hlist] at hloaded
    exact absurd hloaded (by simp [Except.bind])
  -- nothing has happened yet
  obtain ⟨-, hfirst, -⟩ := initialization_spec hsv [] Files.empty []
  obtain ⟨-, -, -, -, hfirst⟩ := hfirst (fun h => h)
  have hfails : start.answer? (.prepare clock id) ≠ some (.ok ()) := by
    intro hok
    obtain ⟨⟨b, hb⟩, -⟩ := (hfirst clock id).1.1 hok
    exact hmissing b hb
  -- the first call has failed, and the files are there
  obtain ⟨-, hsecond, -⟩ :=
    initialization_spec hsv [] Files.empty [.prepare clock id, .replace oneFile]
  obtain ⟨-, -, -, -, hsecond⟩ := hsecond (by
    rintro (hok | hok | hok)
    · exact hfails hok
    · exact absurd hok (by simp [answer?])
    · exact hok)
  obtain ⟨b, hb⟩ := exists_loadBagInParallel_oneFile clock
  have hsucceeds : start.Succeeds acts :=
    Or.inr (Or.inr (Or.inl ((hsecond clock id).1.2
      ⟨⟨b, "/srv/t", rfl, by decide, hb⟩, ⟨_, rfl⟩⟩)))
  obtain ⟨-, -, hthird, -⟩ := initialization_spec hsv [] Files.empty acts
  obtain ⟨r, x, hr, -, -, hkept⟩ := hthird hsucceeds
  exact ⟨hsv, hfails, hsucceeds, r, hr, hkept _ (by simp [Act.isInstall])⟩

end Site

end Phrasebook

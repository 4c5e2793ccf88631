import Phrasebook.Proofs.Store.Ownership
import Phrasebook.Service

namespace Phrasebook.Service

/-!
# Loads and installations

A load begins at one time and ends at another, and its bag is installed when it ends, whatever was
installed in between.

* `Event`, `after`, `run`: what can happen to a service, in any order.
* `install_of_ok`, `install_of_error`: what an installation comes to.
* `after_cases`: what an event can do.
* `Sound`, `sound_run`: the resolver of a service is in its store.
* `resolver_run_of_not_loading`: with no load under way, only an installation replaces a resolver.
* `Sound.resolver_run_iff`, `resolver_stays_iff`: exactly when a resolver stays in place until the
  next installation.
* `not_resolver_stays`: a load that began before an installation takes its place.
-/

/-! ### What can happen to a service -/

/-- What can happen to a service. -/
inductive Event
  /-- it is called for messages; a load begins unless messages are there or under way -/
  | call
  /-- the load under way ends -/
  | complete (loaded : Except Failure Bag)
  /-- a bag is installed -/
  | install (b : Ref HeldBag)

/-- How the load ends, if it does. -/
def Event.loaded? : Event → Option (Except Failure Bag)
  | complete loaded => some loaded
  | _ => none

/-- Whether a bag is installed. -/
def Event.isInstall : Event → Bool
  | install _ => true
  | _ => false

/-- A service and the store that it is in after an event.  No load ends where none is under way. -/
def after (p : Service × Store) : Event → Service × Store
  | .call => (p.1.begin.2, p.2)
  | .complete loaded =>
    if p.1.loading then ((p.1.finish p.2 loaded).service, (p.1.finish p.2 loaded).store) else p
  | .install b => ((p.1.install p.2 b).service, (p.1.install p.2 b).store)

/-- A service and its store after a row of events. -/
def run (p : Service × Store) (es : List Event) : Service × Store :=
  es.foldl after p

/-- How the first load of a row of events ends. -/
def firstLoad? (es : List Event) : Option (Except Failure Bag) :=
  es.findSome? Event.loaded?

/-- A call begins a load. -/
theorem after_call (p : Service × Store) : after p .call = (p.1.begin.2, p.2) := rfl

/-- A load that is under way ends; otherwise nothing happens. -/
theorem after_complete (p : Service × Store) (loaded : Except Failure Bag) :
    after p (.complete loaded)
      = if p.1.loading then ((p.1.finish p.2 loaded).service, (p.1.finish p.2 loaded).store)
        else p := rfl

/-- An installation puts a resolver in place. -/
theorem after_install (p : Service × Store) (b : Ref HeldBag) :
    after p (.install b) = ((p.1.install p.2 b).service, (p.1.install p.2 b).store) := rfl

@[simp] theorem run_nil (p : Service × Store) : run p [] = p := rfl

@[simp] theorem run_cons (p : Service × Store) (e : Event) (es : List Event) :
    run p (e :: es) = run (after p e) es := rfl

/-! ### Installations and the ends of loads -/

/-- Where the size of the cache is accepted, an installation succeeds. -/
theorem install_of_ok (sv : Service) {f : Formatter} (h : Formatter.ofCapacity sv.cacheSize = .ok f)
    (store : Store) (b : Ref HeldBag) :
    (sv.install store b).answer = .ok () ∧
      (sv.install store b).service = { sv with resolver := some store.resolvers.fresh } ∧
      (sv.install store b).store
        = (store.addResolver { bag := b, fallback := sv.fallback, formatter := f }).2 := by
  rw [install, h]
  exact ⟨rfl, rfl, rfl⟩

/-- A refused installation changes nothing. -/
theorem install_of_error (sv : Service) {e : CapacityFault}
    (h : Formatter.ofCapacity sv.cacheSize = .error e) (store : Store) (b : Ref HeldBag) :
    (sv.install store b).answer = .error (.capacity e) ∧ (sv.install store b).service = sv ∧
      (sv.install store b).store = store := by
  rw [install, h]
  exact ⟨rfl, rfl, rfl⟩

/-- A load that ends well installs its bag. -/
theorem finish_of_ok {sv : Service} {f : Formatter} (h : Formatter.ofCapacity sv.cacheSize = .ok f)
    (store : Store) (b : Bag) :
    (sv.finish store (.ok b)).service
        = { sv with loading := false, resolver := some store.resolvers.fresh } ∧
      (sv.finish store (.ok b)).store
        = ((store.addBag b).2.addResolver
            { bag := (store.addBag b).1, fallback := sv.fallback, formatter := f }).2 := by
  have hfresh : (store.addBag b).2.resolvers.fresh = store.resolvers.fresh := by
    rw [Store.resolvers_addBag]
  obtain ⟨hanswer, hservice, hstore⟩ :=
    install_of_ok { sv with loading := false } h (store.addBag b).2 (store.addBag b).1
  simp only [finish, hanswer]
  rw [hservice, hstore, hfresh]
  exact ⟨rfl, rfl⟩

/-- A load whose bag is refused, or that fails, leaves the resolver in place. -/
theorem finish_of_error {sv : Service} {e : CapacityFault}
    (h : Formatter.ofCapacity sv.cacheSize = .error e) (store : Store) (b : Bag) :
    (sv.finish store (.ok b)).service = { sv with loading := false } ∧
      (sv.finish store (.ok b)).store = store := by
  obtain ⟨hanswer, hservice, -⟩ :=
    install_of_error { sv with loading := false } h (store.addBag b).2 (store.addBag b).1
  simp only [finish, hanswer]
  exact ⟨hservice, trivial⟩

/-- A call changes nothing where messages are there. -/
theorem begin_of_isInitialized {sv : Service} (h : sv.isInitialized = true) :
    sv.begin = (.ready, sv) := by
  rw [begin, if_pos h]

/-! ### The resolver is in the store -/

/-- A resolver in place is one of the store, and the size of the cache was accepted for it. -/
def Sound (p : Service × Store) : Prop :=
  ∀ r, p.1.resolver = some r →
    (p.2.resolver? r).isSome = true ∧ ∃ f, Formatter.ofCapacity p.1.cacheSize = .ok f

/-- An event changes nothing but whether a load is under way, or puts a new resolver in place. -/
theorem after_cases (p : Service × Store) (e : Event) :
    (∃ loading, after p e = ({ p.1 with loading := loading }, p.2)) ∨
    ∃ f loading x, Formatter.ofCapacity p.1.cacheSize = .ok f ∧
      (after p e).1 = { p.1 with loading := loading, resolver := some p.2.resolvers.fresh } ∧
      (after p e).2.resolvers = p.2.resolvers.push x := by
  -- a call only begins; the other two may put a resolver in place
  cases e with
  | call =>
    rw [after_call, begin]
    split
    · exact Or.inl ⟨p.1.loading, rfl⟩
    · split
      · exact Or.inl ⟨p.1.loading, rfl⟩
      · exact Or.inl ⟨true, rfl⟩
  | install b =>
    rw [after_install]
    cases hf : Formatter.ofCapacity p.1.cacheSize with
    | error e =>
      -- a size that is refused leaves everything as it was
      obtain ⟨-, hservice, hstore⟩ := install_of_error p.1 hf p.2 b
      rw [hservice, hstore]
      exact Or.inl ⟨p.1.loading, rfl⟩
    | ok f =>
      obtain ⟨-, hservice, hstore⟩ := install_of_ok p.1 hf p.2 b
      rw [hservice, hstore]
      exact Or.inr ⟨f, p.1.loading, _, rfl, rfl, rfl⟩
  | complete loaded =>
    rw [after_complete]
    split
    · cases loaded with
      | error e => exact Or.inl ⟨false, rfl⟩
      | ok b =>
        cases hf : Formatter.ofCapacity p.1.cacheSize with
        | error e =>
          obtain ⟨hservice, hstore⟩ := finish_of_error hf p.2 b
          rw [hservice, hstore]
          exact Or.inl ⟨false, rfl⟩
        | ok f =>
          obtain ⟨hservice, hstore⟩ := finish_of_ok hf p.2 b
          rw [hservice, hstore]
          -- the bag that was loaded is new, and so is the resolver that looks into it
          let x : Resolver :=
            { bag := (p.2.addBag b).1, fallback := p.1.fallback, formatter := f }
          have hresolvers :
              ((p.2.addBag b).2.addResolver x).2.resolvers = p.2.resolvers.push x := by
            rw [Store.addResolver, Store.resolvers_addBag]
          exact Or.inr ⟨f, false, x, rfl, rfl, hresolvers⟩
    · exact Or.inl ⟨p.1.loading, rfl⟩

/-- A resolver of the store stays what it is. -/
theorem resolver?_after {p : Service × Store} {r : Ref Resolver} {x : Resolver}
    (h : p.2.resolver? r = some x) (e : Event) : (after p e).2.resolver? r = some x := by
  rcases after_cases p e with ⟨loading, heq⟩ | ⟨f, loading, y, -, -, hpush⟩
  · rw [heq]
    exact h
  · rw [Store.resolver?, hpush, Arena.get?_push, if_neg (Arena.ne_fresh h)]
    exact h

/-- No event takes a resolver out of the store. -/
theorem resolver?_run {p : Service × Store} {r : Ref Resolver} {x : Resolver}
    (h : p.2.resolver? r = some x) (es : List Event) : (run p es).2.resolver? r = some x := by
  induction es generalizing p with
  | nil => exact h
  | cons e es ih => exact ih (resolver?_after h e)

/-- One event. -/
theorem sound_after {p : Service × Store} (h : Sound p) (e : Event) : Sound (after p e) := by
  intro r hr
  rcases after_cases p e with ⟨loading, heq⟩ | ⟨f, loading, x, hf, hservice, hpush⟩
  · rw [heq] at hr ⊢
    exact h r hr
  · rw [hservice] at hr ⊢
    -- the resolver in place is the one that was just put there
    obtain rfl := Option.some.inj hr
    refine ⟨?_, f, hf⟩
    rw [Store.resolver?, hpush, Arena.get?_push, if_pos rfl]
    rfl

/-- Every run. -/
theorem sound_run {p : Service × Store} (h : Sound p) (es : List Event) : Sound (run p es) := by
  induction es generalizing p with
  | nil => exact h
  | cons e es ih => exact ih (sound_after h e)

/-- A service that was just set up has no resolver, and no load is under way. -/
theorem idle_of_ofOptions {o : ServiceOptions} {sv : Service} (h : ofOptions o = .ok sv) :
    sv.resolver = none ∧ sv.loading = false := by
  unfold ofOptions at h
  split at h
  · exact absurd h (by simp)
  · next l hl =>
    cases hf : o.fallback.locale l with
    | error e =>
      rw [hf] at h
      exact absurd h (by simp [Except.map])
    | ok fallback =>
      rw [hf] at h
      rw [← Except.ok.inj h]
      exact ⟨rfl, rfl⟩

/-- A service that was just set up has no resolver. -/
theorem sound_ofOptions {o : ServiceOptions} {sv : Service} (h : ofOptions o = .ok sv)
    (store : Store) : Sound (sv, store) := by
  intro r hr
  exact absurd ((idle_of_ofOptions h).1.symm.trans hr) (by simp)

/-! ### What replaces a resolver -/

/-- With no load under way, a resolver in place stays there until the next installation. -/
theorem resolver_run_of_not_loading {p : Service × Store} {r : Ref Resolver}
    (hr : p.1.resolver = some r) (hloading : p.1.loading = false) {es : List Event}
    (hes : ∀ e ∈ es, e.isInstall = false) : (run p es).1.resolver = some r := by
  induction es with
  | nil => exact hr
  | cons e es ih =>
    have hsame : after p e = p := by
      cases e with
      | call =>
        have hready : p.1.isInitialized = true := by rw [isInitialized, hr]; rfl
        rw [after_call, begin_of_isInitialized hready]
      | complete loaded => rw [after_complete, hloading]; rfl
      | install b => exact absurd (hes (.install b) List.mem_cons_self) (by simp [Event.isInstall])
    rw [run_cons, hsame]
    exact ih fun e he => hes e (List.mem_cons_of_mem _ he)

/-- A resolver in place stays there until the next installation, unless a load was under way that
    then ends well. -/
theorem Sound.resolver_run_iff {p : Service × Store} (hp : Sound p) {r : Ref Resolver}
    (hr : p.1.resolver = some r) {es : List Event} (hes : ∀ e ∈ es, e.isInstall = false) :
    (run p es).1.resolver = some r
      ↔ ¬ (p.1.loading = true ∧ ∃ b, firstLoad? es = some (.ok b)) := by
  obtain ⟨hthere, f, hf⟩ := hp r hr
  -- a call does nothing while a resolver is there, so the first load that ends decides
  induction es with
  | nil => exact iff_of_true hr fun h => by simp [firstLoad?] at h
  | cons e es ih =>
    have hrest : ∀ e ∈ es, e.isInstall = false := fun e he => hes e (List.mem_cons_of_mem _ he)
    cases e with
    | call =>
      have hready : p.1.isInitialized = true := by rw [isInitialized, hr]; rfl
      rw [run_cons, after_call, begin_of_isInitialized hready]
      exact ih hrest
    | install b => exact absurd (hes (.install b) List.mem_cons_self) (by simp [Event.isInstall])
    | complete loaded =>
      have hfirst : firstLoad? (.complete loaded :: es) = some loaded := rfl
      rw [run_cons, hfirst]
      cases hloading : p.1.loading with
      | false =>
        have hsame : after p (.complete loaded) = p := by rw [after_complete, hloading]; rfl
        rw [hsame]
        exact iff_of_true (resolver_run_of_not_loading hr hloading hrest) (by simp)
      | true =>
        rw [after_complete, hloading, if_pos rfl]
        cases loaded with
        | error e =>
          have hkept := resolver_run_of_not_loading
            (p := ((p.1.finish p.2 (.error e)).service, (p.1.finish p.2 (.error e)).store))
            hr rfl hrest
          exact iff_of_true hkept (by simp)
        | ok b =>
          -- the new resolver is none that was there
          obtain ⟨hservice, -⟩ := finish_of_ok hf p.2 b
          have hnew := resolver_run_of_not_loading
            (p := ((p.1.finish p.2 (.ok b)).service, (p.1.finish p.2 (.ok b)).store))
            (congrArg Service.resolver hservice) (congrArg Service.loading hservice) hrest
          obtain ⟨x, hx⟩ := Option.isSome_iff_exists.1 hthere
          have hne : r ≠ p.2.resolvers.fresh := Arena.ne_fresh hx
          rw [hnew]
          exact iff_of_false (fun h => hne (Option.some.inj h).symm) fun h => h ⟨rfl, b, rfl⟩

/-- An accepted installation puts a resolver over the bag in place. -/
theorem resolver?_after_install {p : Service × Store} {b : Ref HeldBag}
    (h : (p.1.install p.2 b).answer = .ok ()) :
    ∃ r x, x.bag = b ∧ (after p (.install b)).1 = { p.1 with resolver := some r } ∧
      (after p (.install b)).2.resolver? r = some x := by
  rw [after_install]
  cases hf : Formatter.ofCapacity p.1.cacheSize with
  | error e =>
    rw [(install_of_error p.1 hf p.2 b).1] at h
    exact absurd h (by simp)
  | ok f =>
    obtain ⟨-, hservice, hstore⟩ := install_of_ok p.1 hf p.2 b
    rw [hservice, hstore]
    refine ⟨_, { bag := b, fallback := p.1.fallback, formatter := f }, rfl, rfl, ?_⟩
    show (p.2.resolvers.push _).get? p.2.resolvers.fresh = _
    rw [Arena.get?_push, if_pos rfl]

/-- Whatever happened to a service, the resolver over a bag that is installed stays in place until
    the next installation if and only if no load was under way that then ends well; and so does any
    resolver that is in place. -/
theorem resolver_stays_iff {o : ServiceOptions} {sv : Service} (hsv : ofOptions o = .ok sv)
    (store : Store) (es : List Event) {fs : List Event} (hfs : ∀ e ∈ fs, e.isInstall = false) :
    let p := run (sv, store) es
    let replaced := p.1.loading = true ∧ ∃ loaded, firstLoad? fs = some (.ok loaded)
    (∀ b, (p.1.install p.2 b).answer = .ok () →
      let q := run p [.install b]
      let t := run q fs
      ∃ r x, x.bag = b ∧ q.1.resolver = some r ∧ q.2.resolver? r = some x ∧
        t.2.resolver? r = some x ∧ (t.1.resolver = some r ↔ ¬ replaced)) ∧
    ∀ r, p.1.resolver = some r → ((run p fs).1.resolver = some r ↔ ¬ replaced) := by
  intro p replaced
  -- what was installed or loaded before is of no account, as long as the resolver is in the store
  have hp : Sound p := sound_run (sound_ofOptions hsv store) es
  refine ⟨?_, fun r hr => hp.resolver_run_iff hr hfs⟩
  intro b hb q t
  obtain ⟨r, x, hx, hservice, hthere⟩ := resolver?_after_install hb
  have hq : q = after p (.install b) := rfl
  have hr : q.1.resolver = some r := by rw [hq, hservice]
  have hloading : q.1.loading = p.1.loading := by rw [hq, hservice]
  -- an installation neither begins a load nor ends one
  have hstays := (sound_after hp (.install b)).resolver_run_iff hr hfs
  rw [← hq, hloading] at hstays
  exact ⟨r, x, hx, hr, hthere, resolver?_run hthere fs, hstays⟩

/-- A bag that is installed while a load is under way stays when the load fails. -/
theorem resolver_stays_iff_failed :
    let o : ServiceOptions := { defaultLocale := .known default }
    let sv : Service := { defaultLocale := default, fallback := some default }
    let store := Store.empty.run [.newBag []]
    let fs := [Event.call, .complete (.error (.fault noDirectory)), .call]
    ofOptions o = .ok sv ∧ (∀ e ∈ fs, e.isInstall = false) ∧
      (run (sv, store) [.call]).1.loading = true ∧
      ∃ r x, x.bag = ⟨0⟩ ∧ (run (sv, store) (.call :: .install ⟨0⟩ :: fs)).1.resolver = some r ∧
        (run (sv, store) (.call :: .install ⟨0⟩ :: fs)).2.resolver? r = some x := by
  intro o sv store fs
  have hsv : ofOptions o = .ok sv := rfl
  have hfs : ∀ e ∈ fs, e.isInstall = false := by simp [fs, Event.isInstall]
  refine ⟨hsv, hfs, rfl, ?_⟩
  obtain ⟨r, x, hx, -, -, hthere, hstays⟩ := (resolver_stays_iff hsv store [.call] hfs).1 ⟨0⟩ rfl
  refine ⟨r, x, hx, hstays.2 ?_, hthere⟩
  have hfirst : firstLoad? fs = some (.error (.fault noDirectory)) := rfl
  rintro ⟨-, loaded, hloaded⟩
  rw [hfirst] at hloaded
  exact absurd hloaded (by simp)

/-- A bag that is installed while a load is under way gives way to the bag that was loaded, so not
    every bag that is installed stays until the next installation. -/
theorem not_resolver_stays :
    let sv : Service :=
      { defaultLocale := default, fallback := some default, directory := some "t" }
    let store := Store.empty.run
      [.newCatalogue default [("m", [("a", "installed")])], .newBag [⟨0⟩]]
    let q := run (sv, store) [.call, .install ⟨0⟩]
    let t := run q [.complete (.ok (.ofList [.ofMessages default [("m", [("a", "loaded")])]]))]
    let found := fun p : Service × Store =>
      (p.1.resolver? p.2).bind fun x => p.2.resolve x default "m" "a"
    found q = some ⟨default, "installed"⟩ ∧ found t = some ⟨default, "loaded"⟩ ∧
      ¬ ∀ (o : ServiceOptions) (sv : Service) (store : Store) (es fs : List Event)
        (b : Ref HeldBag), ofOptions o = .ok sv → (∀ e ∈ fs, e.isInstall = false) →
        let p := run (sv, store) es
        (p.1.install p.2 b).answer = .ok () →
          (run p (.install b :: fs)).1.resolver = (run p [.install b]).1.resolver := by
  intro sv store q t found
  have hinstalled : found q = some ⟨default, "installed"⟩ := by decide +kernel
  have hloaded : found t = some ⟨default, "loaded"⟩ := by decide +kernel
  refine ⟨hinstalled, hloaded, fun h => ?_⟩
  have hsame := h { defaultLocale := .known default, directory := some "t" } sv store [.call]
    [.complete (.ok (.ofList [.ofMessages default [("m", [("a", "loaded")])]]))] ⟨0⟩ rfl
    (by simp [Event.isInstall]) rfl
  -- the resolver of the load comes after that of the installation
  have hfirst : q.1.resolver = some ⟨0⟩ := rfl
  have hsecond : t.1.resolver = some ⟨1⟩ := rfl
  have heq : t.1.resolver = q.1.resolver := hsame
  rw [hfirst, hsecond] at heq
  exact absurd heq (by simp)

end Phrasebook.Service

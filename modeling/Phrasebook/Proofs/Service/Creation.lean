import Phrasebook.Proofs.Catalogue.Views
import Phrasebook.Proofs.Loading.Parallel
import Phrasebook.Proofs.Service.Initialization
import Phrasebook.Proofs.Settings.RoundTrip

namespace Phrasebook

/-!
# From the environment to messages

Setting up a service reads the environment, builds the service and calls it for messages.  Only the
first and the last of these can fail: whatever passes the check of the settings is accepted by the
service, by its template cache and by the loader, each of which has a check of its own.

* `Service.ofOptions_toOptions`: settings name known locales.
* `Settings.Valid.exists_formatter`: a size that passes is a capacity.
* `Settings.service`: the service that settings set up; `Settings.load_service` is what it loads.
* `Service.create_cases`: how setting up a service can end.
* `Service.create_spec`: the faults that come up, and what a service that was set up is like.
-/

/-! ### What settings that were checked are accepted by -/

/-- The service that settings set up. -/
def Settings.service (s : Settings) : Service where
  defaultLocale := s.defaultLocale
  fallback := s.fallback
  directory := some s.directory
  extensions := some s.extensions
  cacheSize := some (.ofInt s.cacheSize)

/-- The tag of a locale is read as that locale. -/
theorem locale_tagged (l : Locale) : (LocaleRef.tagged l.tag).locale = .ok l := by
  show localeOfTag l.tag = .ok l
  rw [localeOfTag, l.ofTag?_tag]

/-- A service can be set up with any settings, since they name their locales by known tags. -/
theorem Service.ofOptions_toOptions (s : Settings) :
    ofOptions s.toOptions = .ok s.service := by
  have hfallback : s.toOptions.fallback.locale s.defaultLocale = .ok s.fallback := by
    unfold Settings.toOptions
    cases s.fallback with
    | none => rfl
    | some l =>
      show (LocaleRef.tagged l.tag).locale.map some = .ok (some l)
      rw [locale_tagged]
      rfl
  have hdefault : s.toOptions.defaultLocale.locale = .ok s.defaultLocale :=
    locale_tagged s.defaultLocale
  unfold ofOptions
  rw [hdefault]
  show (s.toOptions.fallback.locale s.defaultLocale).map _ = _
  rw [hfallback]
  rfl

/-- A size from one to the greatest size is the capacity of a cache. -/
theorem capacityOf_of_toInt? {x : Number.Double} {n : Nat} (hx : x.toInt? = some (n : Int))
    (hpos : 1 ≤ n) (hle : n ≤ Settings.maxCacheSize) : capacityOf (some x) = .ok n := by
  have hsafe : (n : Int).natAbs ≤ Number.Double.maxSafe :=
    Settings.natAbs_le_maxSafe (by omega) (by omega)
  have hexact : x.toSafeInt? = some (n : Int) := by
    rw [Number.Double.toSafeInt?, hx, Option.filter_some, if_pos (by simpa using hsafe)]
  have hrow : n < rowBound := by
    have hmax : Settings.maxCacheSize = 1000000 := rfl
    have hbound : rowBound = 4294967296 := rfl
    omega
  exact capacityRules.accepted hexact (by omega) hrow

/-- A size that passes the check of settings is accepted by a cache. -/
theorem Settings.Valid.exists_formatter {s : Settings} (h : s.Valid) :
    ∃ f, Formatter.ofCapacity s.service.cacheSize = .ok f := by
  have hint : (Number.Double.ofInt s.cacheSize).toInt? = some (s.cacheSize : Int) := by
    have hle := h.cacheSize_le
    apply Number.Double.toInt?_ofInt
    exact Settings.natAbs_le_maxSafe (by omega) (by omega)
  have hcapacity := capacityOf_of_toInt? hint h.cacheSize_pos h.cacheSize_le
  refine ⟨.cached { capacity := s.cacheSize }, ?_⟩
  show (capacityOf (some (.ofInt s.cacheSize))).map _ = _
  rw [hcapacity]
  rfl

/-- A service with checked settings loads the directory that they state, and is never without
    one. -/
theorem Settings.Valid.load_service {s : Settings} (h : s.Valid) (fs : Files) (clock : Clock)
    (ended : List Nat → List Nat) :
    (s.service.load fs clock ended).answer
      = (loadBagInParallel ended fs clock s.directory s.extensions).answer.mapError
          fun f => .fault (.unloadable f) := by
  have hne := h.directory
  unfold Service.load Settings.service
  dsimp only
  split
  · next hdir => exact absurd hdir (by simp)
  · next hdir => exact absurd (Option.some.inj hdir) hne
  · next dir _ hdir =>
    rw [← Option.some.inj hdir]
    rfl

/-! ### A call for messages -/

/-- What a first call for messages answers: it fails with the fault of the load, or where the cache
    is refused. -/
theorem Service.answer_prepare {sv : Service} (hresolver : sv.resolver = none)
    (hloading : sv.loading = false) (store : Store) (fs : Files) (clock : Clock)
    (ended : List Nat → List Nat) :
    (sv.prepare store fs clock ended).answer = (sv.load fs clock ended).answer.bind fun _ =>
      ((Formatter.ofCapacity sv.cacheSize).mapError .capacity).map fun _ => () := by
  have hbegin : sv.begin = (.began, { sv with loading := true }) := by
    rw [begin, isInitialized, hresolver, hloading]
    rfl
  have hload : ({ sv with loading := true } : Service).load fs clock ended
      = sv.load fs clock ended := rfl
  simp only [prepare, hbegin, hload]
  exact answer_finish store (sv.load fs clock ended).answer

/-- A first call for messages that loads a bag puts a resolver over it in place. -/
theorem Service.prepare_of_loads {sv : Service} (hresolver : sv.resolver = none)
    (hloading : sv.loading = false) {store : Store} (hstore : store.Owned) {fs : Files}
    {clock : Clock} {ended : List Nat → List Nat} {b : Bag} (hb : sv.Loads fs clock ended b)
    {f : Formatter} (hf : Formatter.ofCapacity sv.cacheSize = .ok f) :
    let r := sv.prepare store fs clock ended
    r.answer = .ok () ∧ r.service = { sv with resolver := r.service.resolver } ∧
      ∃ x, r.service.resolver? r.store = some x ∧ x.fallback = sv.fallback ∧
        r.store.bag? x.bag = some b := by
  intro r
  have hnot : sv.isInitialized = false := by
    rw [isInitialized, hresolver]
    rfl
  rcases prepare_cases store fs clock ended hloading with ⟨hready, -⟩ | ⟨-, -, -, -, hfails⟩ |
    ⟨-, b', f', hb', hf', hanswer, hservice, hafter⟩
  · rw [hnot] at hready
    exact absurd hready (by simp)
  · exact absurd ⟨⟨b, hb⟩, f, hf⟩ hfails
  · obtain ⟨dir, hdir, -, hloaded⟩ := hb
    obtain ⟨dir', hdir', -, hloaded'⟩ := hb'
    -- the directory makes one bag
    obtain rfl := Option.some.inj (hdir.symm.trans hdir')
    obtain rfl := Except.ok.inj (hloaded.symm.trans hloaded')
    have hfresh : (store.addBag b).2.resolvers.fresh = store.resolvers.fresh := by
      rw [Store.resolvers_addBag]
    let x : Resolver := { bag := (store.addBag b).1, fallback := sv.fallback, formatter := f' }
    have hthere := (store.addBag b).2.resolver?_addResolver x
    refine ⟨hanswer, ?_, x, ?_, rfl, ?_⟩
    · show (sv.prepare store fs clock ended).service = _
      rw [hservice]
    · show (sv.prepare store fs clock ended).service.resolver?
        (sv.prepare store fs clock ended).store = some x
      rw [hservice, hafter, ← hfresh]
      exact hthere
    · show (sv.prepare store fs clock ended).store.bag? x.bag = some b
      rw [hafter]
      exact (Store.bag?_congr rfl rfl _).trans
        (Store.bag?_addBag hstore (keyed_of_loadBagBy hloaded))

/-! ### Setting up a service -/

/-- Settings that do not pass are faults of the configuration. -/
theorem Settings.exists_issues {env : Environment} {f : Fault}
    (h : ofEnvironment env = .error f) : ∃ issues, f = .misconfigured issues := by
  unfold ofEnvironment at h
  split at h
  · exact absurd h (by simp)
  · exact ⟨_, (Except.error.inj h).symm⟩

namespace Service

section

variable {env : Environment} (store : Store) (fs : Files) (clock : Clock)
  (ended : List Nat → List Nat)

/-- Where settings do not pass, nothing else is done. -/
theorem create_of_error {f : Fault} (h : Settings.ofEnvironment env = .error f) :
    create env store fs clock ended = { answer := .error (.fault f), store := store } := by
  rw [create, h]

/-- Where settings pass, their level is put in force and the service is called for messages. -/
theorem create_of_ok {s : Settings} (h : Settings.ofEnvironment env = .ok s) :
    let r := s.service.prepare store fs clock ended
    create env store fs clock ended =
      { answer := r.answer.map fun _ => r.service
        store := r.store
        events := setLevelByName s.level.name ++ r.events } := by
  intro r
  unfold create
  rw [h]
  dsimp only
  rw [ofOptions_toOptions]

end

/-- Setting up a service fails with the settings or with the load of their directory, or ends with a
    service that resolves with the bag of that directory. -/
theorem create_cases (env : Environment) {store : Store} (hstore : store.Owned) (fs : Files)
    (clock : Clock) (ended : List Nat → List Nat) :
    let r := create env store fs clock ended
    let loaded := fun s : Settings =>
      (loadBagInParallel ended fs clock s.directory s.extensions).answer
    (∃ issues, Settings.ofEnvironment env = .error (.misconfigured issues) ∧
      r.answer = .error (.fault (.misconfigured issues))) ∨
    (∃ s e, Settings.ofEnvironment env = .ok s ∧ loaded s = .error e ∧
      r.answer = .error (.fault (.unloadable e))) ∨
    ∃ s b sv x, Settings.ofEnvironment env = .ok s ∧ loaded s = .ok b ∧ r.answer = .ok sv ∧
      sv = { s.service with resolver := sv.resolver } ∧ sv.resolver? r.store = some x ∧
      x.fallback = s.fallback ∧ r.store.bag? x.bag = some b := by
  intro r loaded
  cases henv : Settings.ofEnvironment env with
  | error f =>
    -- the settings are refused before anything is read
    obtain ⟨issues, rfl⟩ := Settings.exists_issues henv
    refine Or.inl ⟨issues, rfl, ?_⟩
    show (create env store fs clock ended).answer = _
    rw [create_of_error store fs clock ended henv]
  | ok s =>
    right
    have hvalid := Settings.valid_of_ofEnvironment henv
    -- settings that pass are accepted by everything that comes later
    obtain ⟨f, hf⟩ := hvalid.exists_formatter
    have hr : r = _ := create_of_ok store fs clock ended henv
    have hload := hvalid.load_service fs clock ended
    cases hloaded : loaded s with
    | error e =>
      -- the load is the only thing left that can fail
      have hfailed : (s.service.load fs clock ended).answer = .error (.fault (.unloadable e)) := by
        rw [hload]
        exact congrArg (Except.mapError _) hloaded
      refine Or.inl ⟨s, e, rfl, hloaded, ?_⟩
      rw [hr]
      show (s.service.prepare store fs clock ended).answer.map _ = _
      rw [answer_prepare rfl rfl, hfailed]
      rfl
    | ok b =>
      have hb : s.service.Loads fs clock ended b :=
        ⟨s.directory, rfl, hvalid.directory, hloaded⟩
      obtain ⟨hanswer, hservice, x, hx, hfallback, hbag⟩ := prepare_of_loads rfl rfl hstore hb hf
      refine Or.inr ⟨s, b, _, x, rfl, hloaded, ?_, hservice, ?_, hfallback, ?_⟩
      · rw [hr]
        show (s.service.prepare store fs clock ended).answer.map _ = _
        rw [hanswer]
        rfl
      · rw [hr]
        exact hx
      · rw [hr]
        exact hbag

/-- A service with a resolver is initialized. -/
theorem isInitialized_of_resolver? {sv : Service} {store : Store} {x : Resolver}
    (hx : sv.resolver? store = some x) : sv.isInitialized = true := by
  obtain ⟨r, hr, -⟩ := Option.bind_eq_some_iff.1 hx
  rw [isInitialized, hr]
  rfl

/-- What is available in a service is what the bag of its resolver has. -/
theorem available_eq {sv : Service} {store : Store} {x : Resolver} {b : Bag}
    (hx : sv.resolver? store = some x) (hb : store.bag? x.bag = some b) :
    sv.available store = b.locales := by
  rw [available, hx, Option.map_some, Option.getD_some, Store.bagBehind, hb]
  rfl

end Service

/-- A bag that was loaded is the bag of a directory in which nothing is wrong with any file. -/
theorem exists_sound_directory {ended : List Nat → List Nat}
    (hended : ∀ places, (ended places).Perm places) {fs : Files} {clock : Clock} {dir : String}
    {extensions : List String} {b : Bag}
    (h : (loadBagInParallel ended fs clock dir extensions).answer = .ok b) :
    ∃ D : Directory, D.files = fs ∧ D.path = dir ∧ D.extensions = extensions ∧ D.Sound ∧
      b = D.bag := by
  rcases answer_loadBagInParallel_cases hended clock dir extensions with
    ⟨hsame, -⟩ | ⟨files, f, g, -, hfails, -⟩
  · rw [hsame] at h
    cases hfiles : messageFiles fs dir extensions with
    | error e =>
      rw [loadBag, answer_loadBagBy, hfiles] at h
      exact absurd h (by simp [Except.bind])
    | ok files =>
      obtain ⟨D, rfl, rfl, rfl⟩ := exists_directory hfiles
      obtain ⟨hsound, hbag⟩ := (D.answer_load_eq_ok_iff clock b).1 h
      exact ⟨D, rfl, rfl, rfl, hsound, hbag⟩
  · rw [hfails] at h
    exact absurd h (by simp)

/-- Setting up a service fails with a fault of the configuration just where the environment states
    no settings that pass, and then whatever the files and the clock are, with the store and the log
    as they were; it fails with a fault of loading just where the directory of the settings cannot
    be loaded, and with that fault; and it fails in no other way.  A service that was set up has the
    locales of the settings, is initialized, and has messages for the locales that the accepted
    files of the directory name. -/
theorem Service.create_spec (env : Environment) (before : List Phrasebook.Event) (fs : Files)
    (clock : Clock) (ended : List Nat → List Nat) (hended : ∀ places, (ended places).Perm places) :
    let store := Store.empty.run before
    let r := create env store fs clock ended
    ((∃ issues, r.answer = .error (.fault (.misconfigured issues))) ↔
      ∃ f, Settings.ofEnvironment env = .error f) ∧
    (∀ f, Settings.ofEnvironment env = .error f → ∀ fs clock ended,
      create env store fs clock ended =
        { answer := .error (.fault f), store := store, events := [] }) ∧
    (∀ e, r.answer = .error (.fault (.unloadable e)) ↔
      ∃ s, Settings.ofEnvironment env = .ok s ∧
        (loadBagInParallel ended fs clock s.directory s.extensions).answer = .error e) ∧
    (∀ f, r.answer = .error f →
      (∃ issues, f = .fault (.misconfigured issues)) ∨ ∃ e, f = .fault (.unloadable e)) ∧
    ∀ sv, r.answer = .ok sv → ∃ s, Settings.ofEnvironment env = .ok s ∧
      sv.isInitialized = true ∧ sv.defaultLocale = s.defaultLocale ∧ sv.fallback = s.fallback ∧
      (sv.available r.store).Nodup ∧
      ∃ D : Directory, D.files = fs ∧ D.path = s.directory ∧ D.extensions = s.extensions ∧
        ∀ l, l ∈ sv.available r.store ↔ ∃ name file, D.Names name file ∧ file.locale = l := by
  intro store r
  have hrefused : ∀ f, Settings.ofEnvironment env = .error f → ∀ fs clock ended,
      create env store fs clock ended =
        { answer := .error (.fault f), store := store, events := [] } :=
    fun f hf fs clock ended => create_of_error store fs clock ended hf
  -- the outcomes exclude one another, so each of them decides every clause
  rcases create_cases env (Store.owned_run before) fs clock ended with
    ⟨issues, henv, hanswer⟩ | ⟨s, e, henv, hloaded, hanswer⟩ |
    ⟨s, b, sv, x, henv, hloaded, hanswer, hservice, hx, hfallback, hbag⟩
  · have hanswer : r.answer = .error (.fault (.misconfigured issues)) := hanswer
    simp only [hanswer, henv]
    refine ⟨iff_of_true ⟨issues, rfl⟩ ⟨_, rfl⟩, ?_, ?_, ?_, ?_⟩
    · exact henv ▸ hrefused
    · simp
    · rintro f hf
      exact Or.inl ⟨issues, (Except.error.inj hf).symm⟩
    · simp
  · have hanswer : r.answer = .error (.fault (.unloadable e)) := hanswer
    simp only [hanswer, henv]
    refine ⟨by simp, by simp, ?_, ?_, by simp⟩
    · intro e'
      simp [hloaded]
    · rintro f hf
      exact Or.inr ⟨e, (Except.error.inj hf).symm⟩
  · have hanswer : r.answer = .ok sv := hanswer
    simp only [hanswer, henv]
    refine ⟨by simp, by simp, by simp [hloaded], by simp, ?_⟩
    intro sv' hsv'
    obtain rfl := Except.ok.inj hsv'
    obtain ⟨D, hfiles, hpath, hextensions, hsound, rfl⟩ := exists_sound_directory hended hloaded
    have havailable : sv.available r.store = D.bag.locales := available_eq hx hbag
    refine ⟨s, rfl, ?_, ?_, ?_, ?_, D, hfiles, hpath, hextensions, fun l => ?_⟩
    · exact isInitialized_of_resolver? hx
    · rw [hservice]
      rfl
    · rw [hservice]
      rfl
    · rw [havailable]
      exact D.bag.nodup_locales
    · rw [havailable, Bag.mem_locales, Directory.has_bag hsound]

/-- A service that is set up from nothing but the name of a directory has the locale of the one file
    there. -/
theorem Service.create_spec_oneFile :
    let env : Environment := Dict.ofList [(Environment.names.directory, some " /srv/t ")]
    let clock : Clock := ⟨.ofInt 0, []⟩
    let r := create env Store.empty Site.oneFile clock id
    (∀ places : List Nat, (id places).Perm places) ∧
      ∃ sv, r.answer = .ok sv ∧ sv.isInitialized = true ∧ default ∈ sv.available r.store := by
  intro env clock r
  have hended : ∀ places : List Nat, (id places).Perm places := fun places => List.Perm.refl places
  let s : Settings :=
    { defaultLocale := (Locale.ofTag? "en").getD default
      fallback := some ((Locale.ofTag? "en").getD default)
      directory := "/srv/t", extensions := ["json"], cacheSize := 500, level := .info }
  have henv : Settings.ofEnvironment env = .ok s := by
    apply (Settings.ofEnvironment_eq_ok_iff _ _).2
    decide +kernel
  have hlisted : Site.oneFile.list "/srv/t" = .ok [⟨"m.aa.json", true⟩] :=
    toOption_eq_some_iff.1 (by decide +kernel)
  obtain ⟨b, hb⟩ := Site.exists_loadBagInParallel_oneFile clock
  obtain ⟨hmisconfigured, -, hunloadable, hfails, hsetUp⟩ :=
    create_spec env [] Site.oneFile clock id hended
  refine ⟨hended, ?_⟩
  cases hanswer : r.answer with
  | error f =>
    rcases hfails f hanswer with ⟨issues, rfl⟩ | ⟨e, rfl⟩
    · obtain ⟨f, hf⟩ := hmisconfigured.1 ⟨issues, hanswer⟩
      rw [henv] at hf
      exact absurd hf (by simp)
    · obtain ⟨s', hs', hloaded⟩ := (hunloadable e).1 hanswer
      obtain rfl := Except.ok.inj (henv.symm.trans hs')
      rw [hb] at hloaded
      exact absurd hloaded (by simp)
  | ok sv =>
    obtain ⟨s', hs', hready, -, -, -, D, hfiles, hpath, hextensions, havailable⟩ :=
      hsetUp sv hanswer
    obtain rfl := Except.ok.inj (henv.symm.trans hs')
    refine ⟨sv, rfl, hready,
      (havailable default).2 ⟨"m.aa.json", ⟨"/srv/t/m.aa.json", "m", default⟩, ?_,
      rfl⟩⟩
    have hentries := D.listed
    rw [hfiles, hpath, hlisted] at hentries
    apply Directory.names_iff.2
    rw [hpath, hextensions, Directory.Regular, ← Except.ok.inj hentries]
    exact ⟨by simp, by decide +kernel⟩

end Phrasebook

import Phrasebook.Proofs.Negotiation
import Phrasebook.Proofs.Session.Soundness

namespace Phrasebook

/-!
# Requests stay apart

A request that was accepted keeps the locale it asked for and the resolver that its service had at
that time.  Nothing that happens afterwards changes either of them: other requests, new bags in the
service, and messages asked for reach neither the request nor the bag behind its resolver.

* `Headers.localeFor`, `Headers.answer_detect`: the locale that headers ask for.
* `Session.LeavesAlone`, `Session.get?_requests_run`: a request that is not accepted again is left
  alone.
* `Session.handle_isolated`: what handling a request does, and what the request answers from then
  on.
-/

/-! ### The locale of a request -/

/-- The locale that headers ask for: the one they name outright, if it is known, else the one of the
    languages they prefer, else the usual one. -/
def Headers.localeFor (h : Headers) (usual : Locale) : Locale :=
  (h.named.head?.bind fun s => Locale.ofTag? (String.ofList (Text.trim s.toList))).getD
    ((h.languages.bind preferred?).getD usual)

/-- A blank name is no name, and no tag either. -/
theorem Headers.bind_name? (h : Headers) :
    h.name?.bind Locale.ofTag?
      = h.named.head?.bind fun s => Locale.ofTag? (String.ofList (Text.trim s.toList)) := by
  have hempty : Locale.ofTag? "" = none := by decide +kernel
  unfold name?
  cases h.named.head? with
  | none => rw [Option.map_none, Option.filter_none, Option.bind_none, Option.bind_none]
  | some s =>
    rw [Option.map_some, Option.bind_some]
    generalize String.ofList (Text.trim s.toList) = name
    by_cases hblank : name = ""
    · rw [hblank, hempty]
      rfl
    · rw [Option.filter_some, isEmpty_eq_false hblank, Bool.not_false, if_pos rfl,
        Option.bind_some]

/-- A service comes to the locale that the headers ask for, and of the service only the default
    locale counts. -/
theorem Headers.answer_detect (h : Headers) (sv : Service) :
    (h.detect sv).answer = h.localeFor sv.defaultLocale := by
  unfold detect localeFor
  rw [← bind_name?, ← sv.answer_negotiate h.languages]
  cases h.name? with
  | none => rfl
  | some name =>
    rw [Option.bind_some]
    dsimp only
    cases Locale.ofTag? name <;> rfl

/-! ### Requests -/

namespace Session

/-- The request that a call accepts: a service with messages handles it. -/
def accepts? (p : Session) : Act → Option (Ref Request)
  | .handle q ref _ => ((p.services.get? ref).bind Service.resolver).map fun _ => q
  | _ => none

/-- No call of a row accepts a request. -/
def LeavesAlone (q : Ref Request) (p : Session) : List Act → Prop
  | [] => True
  | a :: acts => p.accepts? a ≠ some q ∧ LeavesAlone q (p.after a) acts

end Session

/-- A service without messages passes a failure on and leaves the request as it was. -/
theorem Request.handle_of_none (q : Request) {sv : Service} (hsv : sv.resolver = none)
    (h : Headers) : q.handle sv h = { request := q, next := [some .uninitialized] } := by
  unfold handle accept Service.resolverRef
  rw [hsv]

/-- A service with messages passes nothing on and gives the request its locale and resolver. -/
theorem Request.handle_of_some (q : Request) {sv : Service} {r : Ref Resolver}
    (hsv : sv.resolver = some r) (h : Headers) :
    q.handle sv h =
      { request := { locale := some (h.localeFor sv.defaultLocale), resolver := some r }
        next := [none]
        events := (h.detect sv).events } := by
  unfold handle accept Service.resolverRef
  rw [hsv, ← h.answer_detect]

/-- Putting in place what is there changes nothing. -/
theorem Arena.set_of_get? {α : Type u} {a : Arena α} {r : Ref α} {x : α} (h : a.get? r = some x) :
    a.set r x = a := by
  have hcells : a.cells.set r.index x = a.cells := by
    apply List.ext_getElem?
    intro i
    rw [List.getElem?_set]
    by_cases hi : r.index = i
    · subst hi
      have hlt : r.index < a.cells.length := (List.getElem?_eq_some_iff.1 h).1
      rw [if_pos rfl, if_pos hlt]
      exact h.symm
    · rw [if_neg hi]
  rw [set, hcells]

namespace Session

variable {p : Session} {q : Ref Request} {request : Request}

/-- A call that does not accept a request leaves it as it is. -/
theorem get?_requests_after (hq : p.requests.get? q = some request) {a : Act}
    (ha : p.accepts? a ≠ some q) : (p.after a).requests.get? q = some request := by
  -- only three acts have to do with requests at all
  cases a with
  | question | use | setLevel => exact hq
  | load o fs clock dir extensions =>
    simp only [after, perform]
    cases (o.loadBag fs clock dir extensions).answer <;> exact hq
  | setUp o =>
    simp only [after, perform]
    cases Service.ofOptions o <;> exact hq
  | create env fs clock ended =>
    simp only [after, perform]
    cases (Service.create env p.store fs clock ended).answer <;> exact hq
  | install ref | begin ref | translate ref | negotiate ref | detect ref =>
    simp only [after, perform, withService]
    cases p.services.get? ref <;> exact hq
  | finish ref fs clock ended =>
    simp only [after, perform, withService]
    cases p.services.get? ref with
    | none => exact hq
    | some sv =>
      simp only [Option.elim_some]
      split <;> exact hq
  | arrive =>
    show (p.requests.push {}).get? q = some request
    -- the new request has a reference of its own
    rw [Arena.get?_push, if_neg (Arena.ne_fresh hq)]
    exact hq
  | handle q' ref h =>
    simp only [after, perform, withRequest, withService]
    cases hq' : p.requests.get? q' with
    | none => exact hq
    | some request' =>
      cases hsv : p.services.get? ref with
      | none => exact hq
      | some sv =>
        show (p.requests.set q' (request'.handle sv h).request).get? q = some request
        rw [Arena.get?_set]
        -- another request may be handled; this one only without messages, since it is not accepted
        by_cases heq : q = q'
        · -- the service that handles the request has no messages
          subst heq
          have hnone : sv.resolver = none := by
            cases hr : sv.resolver with
            | none => rfl
            | some r => exact absurd (by rw [accepts?, hsv, Option.bind_some, hr]; rfl) ha
          rw [if_pos rfl, request'.handle_of_none hnone, hq', Option.map_some, ← hq, hq']
        · rw [if_neg heq]
          exact hq
  | ask q' domain id c =>
    simp only [after, perform, withRequest]
    cases p.requests.get? q' with
    | none => exact hq
    | some request' =>
      simp only [Option.elim_some]
      cases request'.message p.store domain id c <;> exact hq

/-- A row of calls that does not accept a request leaves it as it is. -/
theorem get?_requests_run (hq : p.requests.get? q = some request) {acts : List Act}
    (hacts : LeavesAlone q p acts) : (p.run acts).requests.get? q = some request := by
  induction acts generalizing p with
  | nil => exact hq
  | cons a acts ih => exact ih (get?_requests_after hq hacts.1) hacts.2

/-- A service hands each request that it handles on once.  Without messages it passes a failure on
    and nothing changes.  With messages it passes none, and of all that is there only the request
    changes: it gets the locale that its headers ask for, given the default locale of the service,
    and the resolver that the service has.  Whatever is called afterwards, as long as the request is
    not accepted again, it keeps both; the resolver looks into the same bag, with the same fallback
    locale unless that is set; and the request answers for each message as that resolver does for
    its locale, which is what the bag holds then. -/
theorem handle_isolated (acts : List Act) {ref : Ref Service} {sv : Service}
    (hq : (run {} acts).requests.get? q = some request)
    (hsv : (run {} acts).services.get? ref = some sv) (h : Headers) :
    let p := run {} acts
    let r := p.perform (.handle q ref h)
    (∃ passed, r.answer = .ok (.next [passed])) ∧
    (sv.resolver = none → r.answer = .ok (.next [some .uninitialized]) ∧ r.session = p) ∧
    ∀ x, sv.resolver = some x →
      let l := h.localeFor sv.defaultLocale
      let accepted : Request := { locale := some l, resolver := some x }
      r.answer = .ok (.next [none]) ∧
      r.session = { p with requests := p.requests.set q accepted } ∧
      ∃ resolver, p.store.resolver? x = some resolver ∧
        ∀ later, LeavesAlone q r.session later →
          let t := r.session.run later
          t.requests.get? q = some accepted ∧
          ∃ y, t.store.resolver? x = some y ∧ y.bag = resolver.bag ∧
            ((∀ a ∈ later, a.Spares x) → y.fallback = resolver.fallback) ∧
            ∀ domain id c,
              let m := (t.store.bagBehind y).rendered (lookupChain y.fallback l) domain id c
              ∃ s, t.store.message x l domain id c = some (m, s) ∧
                t.perform (.ask q domain id c) =
                  { answer := (m.map Rendered.message).map .message
                    session := { t with store := s } } := by
  intro p r
  have hsound : p.Sound := (run_keeps sound_empty acts).2
  have hr : r =
      { answer := .ok (.next (request.handle sv h).next)
        session := { p with requests := p.requests.set q (request.handle sv h).request }
        events := (request.handle sv h).events } := by
    show perform p (.handle q ref h) = _
    simp only [perform, withRequest, withService, p, hq, hsv, Option.elim_some]
  cases hresolver : sv.resolver with
  | none =>
    have hrefused := request.handle_of_none hresolver h
    have hsame : p.requests.set q request = p.requests := Arena.set_of_get? hq
    have hanswer : r.answer = .ok (.next [some .uninitialized]) := by rw [hr, hrefused]
    refine ⟨⟨_, hanswer⟩, fun _ => ⟨hanswer, ?_⟩, fun x hx => absurd hx (by simp)⟩
    rw [hr, hrefused]
    show { p with requests := p.requests.set q request } = p
    rw [hsame]
  | some x =>
    have haccepted := request.handle_of_some hresolver h
    have hanswer : r.answer = .ok (.next [none]) := by rw [hr, haccepted]
    refine ⟨⟨_, hanswer⟩, fun hnone => absurd hnone (by simp), ?_⟩
    intro x' hx' l accepted
    obtain rfl := Option.some.inj hx'
    have hsession : r.session = { p with requests := p.requests.set q accepted } := by
      rw [hr, haccepted]
    obtain ⟨resolver, hthere⟩ := Option.isSome_iff_exists.1 (hsound.backs ref sv hsv x hresolver)
    refine ⟨hanswer, hsession, resolver, hthere, ?_⟩
    intro later hlater t
    -- the request is left alone, and the resolver is kept
    have hset : r.session.requests.get? q = some accepted := by
      rw [hsession]
      show (p.requests.set q accepted).get? q = some accepted
      rw [Arena.get?_set, if_pos rfl, hq]
      rfl
    have hkept : t.requests.get? q = some accepted := get?_requests_run hset hlater
    have hsound' : r.session.Sound := (after_keeps hsound (.handle q ref h)).2
    obtain ⟨hkeeps, -⟩ := run_keeps hsound' later
    have hstart : r.session.store.resolver? x = some resolver := by
      rw [hsession]
      exact hthere
    obtain ⟨y, hy, hbag, hfallback⟩ := hkeeps.resolver x resolver hstart
    refine ⟨hkept, y, hy, hbag, hfallback, ?_⟩
    intro domain id c m
    obtain ⟨f, -, hmessage⟩ := Store.message_eq hy (hkeeps.faithful x y hy) l domain id c
    let s := t.store.setResolver x { y with formatter := f }
    have hrequest : accepted.message t.store domain id c = some (m.map Rendered.message, s) := by
      show (t.store.message x l domain id c).map _ = _
      rw [hmessage]
      rfl
    refine ⟨s, hmessage, ?_⟩
    simp only [perform, withRequest, hkept, Option.elim_some, hrequest]

/-- Two requests come in; between them another bag is installed.  The first keeps to the old bag and
    the locale that it named, the second has the new bag. -/
theorem handle_isolated_replaced :
    let l := (Locale.ofTag? "ab").getD default
    let sv : Service :=
      { defaultLocale := default, fallback := some default, resolver := some ⟨0⟩ }
    let acts : List Act :=
      [.use (.newCatalogue default [("m", [("a", "old")])]), .use (.newBag [⟨0⟩]),
        .use (.newCatalogue default [("m", [("a", "new")])]), .use (.newBag [⟨2⟩]),
        .setUp { defaultLocale := .known default }, .install ⟨0⟩ ⟨0⟩, .arrive, .arrive]
    let p := run {} acts
    let r := p.perform (.handle ⟨0⟩ ⟨0⟩ { named := [" AB "] })
    let later : List Act := [.install ⟨0⟩ ⟨1⟩, .handle ⟨1⟩ ⟨0⟩ {}]
    let t := r.session.run later
    let said := fun q => match (t.perform (.ask q "m" "a" .empty)).answer with
      | .ok (.message m) => some m
      | _ => none
    p.requests.get? ⟨0⟩ = some {} ∧ p.services.get? ⟨0⟩ = some sv ∧
      r.answer = .ok (.next [none]) ∧ LeavesAlone ⟨0⟩ r.session later ∧
      t.requests.get? ⟨0⟩ = some { locale := some l, resolver := some ⟨0⟩ } ∧
      said ⟨0⟩ = some "old" ∧ said ⟨1⟩ = some "new" := by
  intro l sv acts p r later t said
  have hq : p.requests.get? ⟨0⟩ = some {} := rfl
  have hsv : p.services.get? ⟨0⟩ = some sv := rfl
  obtain ⟨-, -, haccepted⟩ := handle_isolated acts hq hsv { named := [" AB "] }
  obtain ⟨hanswer, -, resolver, -, hkept⟩ := haccepted ⟨0⟩ rfl
  have hlater : LeavesAlone ⟨0⟩ r.session later := ⟨by decide +kernel, by decide +kernel, trivial⟩
  obtain ⟨hrequest, -⟩ := hkept later hlater
  have hl : Headers.localeFor { named := [" AB "] } sv.defaultLocale = l := by decide +kernel
  rw [hl] at hrequest
  exact ⟨hq, hsv, hanswer, hlater, hrequest, by decide +kernel, by decide +kernel⟩

end Session

end Phrasebook

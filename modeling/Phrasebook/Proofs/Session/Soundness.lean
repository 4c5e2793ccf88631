import Phrasebook.Proofs.Service.Creation
import Phrasebook.Proofs.Session.Basic
import Phrasebook.Proofs.Store.Keeping

namespace Phrasebook

/-!
# Services have their resolvers

Whatever is called in a session, the resolver that a service took stays what it was, and every
service finds its own in the store.

* `Store.Backs`: the resolver of a service is one of the store.
* `ServiceRun.Keeps`: a call on a service that keeps resolvers.
* `Service.install_keeps`, `Service.finish_keeps`, `Service.prepare_keeps`, `Service.create_keeps`:
  calls on a service keep the resolvers that there are and leave the service with one of them.
* `Session.Sound`, `Session.after_keeps`, `Session.run_keeps`: what holds of a session at any time.
-/

/-- Asking a request for a message. -/
theorem Request.message_keeps {spared : Ref Resolver → Prop} (q : Request) {s : Store}
    (hs : s.Faithful) {domain id : String} {c : Context} {r : Except Failure String × Store}
    (h : q.message s domain id c = some r) : Store.Keeps spared s r.2 := by
  unfold message at h
  split at h
  · obtain ⟨m, hm, rfl⟩ := Option.map_eq_some_iff.1 h
    exact Store.keeps_message hs hm
  · exact absurd h (by simp)

/-! ### Services have their resolvers in the store -/

/-- The resolver of a service, if it has one, is one of the store. -/
def Store.Backs (s : Store) (sv : Service) : Prop :=
  ∀ r, sv.resolver = some r → (s.resolver? r).isSome = true

/-- A store that keeps its resolvers still has that of the service. -/
theorem Store.Keeps.backs {spared : Ref Resolver → Prop} {s t : Store} (h : Keeps spared s t)
    {sv : Service} (hsv : s.Backs sv) : t.Backs sv :=
  fun r hr => h.isSome (hsv r hr)

/-- A call on a service that kept the resolvers of a store and left the service with one of the
    store after it. -/
structure ServiceRun.Keeps (spared : Ref Resolver → Prop) (s : Store) (r : ServiceRun) :
    Prop where
  store : Store.Keeps spared s r.store
  backs : r.store.Backs r.service

/-- A run keeps what its store and its service keep. -/
theorem ServiceRun.keeps_of_eq {spared : Ref Resolver → Prop} {s t : Store} {sv : Service}
    {r : ServiceRun} (hstore : r.store = t) (hservice : r.service = sv)
    (ht : Store.Keeps spared s t) (hsv : t.Backs sv) : r.Keeps spared s := by
  subst hstore hservice
  exact ⟨ht, hsv⟩

namespace Service

section

variable {spared : Ref Resolver → Prop} {s : Store} {sv : Service}

/-- A service without a resolver needs none in the store. -/
theorem backs_of_resolver_eq_none (h : sv.resolver = none) : s.Backs sv := by
  intro r hr
  rw [h] at hr
  exact absurd hr (by simp)

/-- The resolver that was just put into a store. -/
theorem backs_addResolver (s : Store) (sv : Service) (x : Resolver) :
    (s.addResolver x).2.Backs { sv with resolver := some s.resolvers.fresh } := by
  intro r hr
  obtain rfl := Option.some.inj hr
  exact Option.isSome_iff_exists.2 ⟨x, s.resolver?_addResolver x⟩

/-- An installation. -/
theorem install_keeps (hs : s.Faithful) (hsv : s.Backs sv) (b : Ref HeldBag) :
    (sv.install s b).Keeps spared s := by
  cases hf : Formatter.ofCapacity sv.cacheSize with
  | error e =>
    obtain ⟨-, hservice, hstore⟩ := install_of_error sv hf s b
    exact ServiceRun.keeps_of_eq hstore hservice (.refl hs) hsv
  | ok f =>
    obtain ⟨-, hservice, hstore⟩ := install_of_ok sv hf s b
    apply ServiceRun.keeps_of_eq hstore hservice
    · exact Store.keeps_addResolver hs (Formatter.faithful_ofCapacity hf)
    · exact backs_addResolver s sv _

/-- The end of a load. -/
theorem finish_keeps (hs : s.Faithful) (hsv : s.Backs sv) (loaded : Except Failure Bag) :
    (sv.finish s loaded).Keeps spared s := by
  cases loaded with
  | error f => exact ⟨.refl hs, hsv⟩
  | ok b =>
    cases hf : Formatter.ofCapacity sv.cacheSize with
    | error e =>
      obtain ⟨hservice, hstore⟩ := finish_of_error hf s b
      exact ServiceRun.keeps_of_eq hstore hservice (.refl hs) hsv
    | ok f =>
      obtain ⟨hservice, hstore⟩ := finish_of_ok hf s b
      have hresolvers := s.resolvers_addBag b
      apply ServiceRun.keeps_of_eq hstore hservice
      · apply (Store.keeps_of_resolvers hs hresolvers).trans
        exact Store.keeps_addResolver (hs.of_resolvers hresolvers)
          (Formatter.faithful_ofCapacity hf)
      · -- the bag takes no place among the resolvers
        rw [← hresolvers]
        exact backs_addResolver (s.addBag b).2 { sv with loading := false } _

/-- Beginning a load leaves the resolver in place. -/
theorem backs_begin (hsv : s.Backs sv) : s.Backs sv.begin.2 := by
  unfold begin
  split
  · exact hsv
  · split
    · exact hsv
    · exact hsv

/-- A call for messages. -/
theorem prepare_keeps (hs : s.Faithful) (hsv : s.Backs sv) (fs : Files) (clock : Clock)
    (ended : List Nat → List Nat) : (sv.prepare s fs clock ended).Keeps spared s := by
  have hbegin := backs_begin hsv
  unfold prepare
  split
  · next heq =>
    rw [heq] at hbegin
    exact ⟨.refl hs, hbegin⟩
  · next heq =>
    rw [heq] at hbegin
    obtain ⟨hstore, hbacks⟩ := finish_keeps hs hbegin _
    exact ⟨hstore, hbacks⟩

/-- Setting a service up. -/
theorem create_keeps (hs : s.Faithful) (env : Environment) (fs : Files) (clock : Clock)
    (ended : List Nat → List Nat) :
    Store.Keeps spared s (create env s fs clock ended).store ∧
      ∀ sv, (create env s fs clock ended).answer = .ok sv →
        (create env s fs clock ended).store.Backs sv := by
  cases henv : Settings.ofEnvironment env with
  | error f =>
    rw [create_of_error s fs clock ended henv]
    exact ⟨.refl hs, fun sv hsv => absurd hsv (by simp)⟩
  | ok settings =>
    have hnone : s.Backs settings.service := backs_of_resolver_eq_none rfl
    have hprepare : (settings.service.prepare s fs clock ended).Keeps spared s :=
      prepare_keeps hs hnone fs clock ended
    rw [create_of_ok s fs clock ended henv]
    refine ⟨hprepare.store, fun sv hsv => ?_⟩
    cases hanswer : (settings.service.prepare s fs clock ended).answer with
    | error f =>
      rw [hanswer] at hsv
      exact absurd hsv (by simp [Except.map])
    | ok u =>
      rw [hanswer] at hsv
      rw [← Except.ok.inj hsv]
      exact hprepare.backs

/-- A message of a service. -/
theorem message_keeps (hs : s.Faithful) (l : LocaleRef) (domain id : String) (c : Context) :
    Store.Keeps spared s (sv.message s l domain id c).2 := by
  unfold message
  split
  · exact .refl hs
  · exact .refl hs
  · split
    · exact .refl hs
    · next hmessage => exact Store.keeps_message hs hmessage

end

end Service

/-! ### What holds of a session at any time -/

namespace Session

/-- Templates are remembered rightly, and every service has its resolver in the store. -/
structure Sound (p : Session) : Prop where
  faithful : p.store.Faithful
  backs : ∀ ref sv, p.services.get? ref = some sv → p.store.Backs sv

theorem sound_empty : Sound {} where
  faithful := Store.faithful_empty
  backs := fun _ _ h => absurd h (by simp [Arena.get?])

variable {p : Session}

/-- A call on the store. -/
theorem Sound.of_keeps (h : p.Sound) {spared : Ref Resolver → Prop} {t : Store}
    (ht : Store.Keeps spared p.store t) : Sound { p with store := t } where
  faithful := ht.faithful
  backs := fun ref sv hsv => ht.backs (h.backs ref sv hsv)

/-- A new service. -/
theorem Sound.push (h : p.Sound) {sv : Service} (hsv : p.store.Backs sv) :
    Sound { p with services := p.services.push sv } where
  faithful := h.faithful
  backs := by
    intro ref sv' hsv'
    have hpush : (p.services.push sv).get? ref = some sv' := hsv'
    rw [Arena.get?_push] at hpush
    split at hpush
    · rw [← Option.some.inj hpush]
      exact hsv
    · exact h.backs ref sv' hpush

/-- Another state of a service. -/
theorem Sound.set (h : p.Sound) (ref : Ref Service) {sv : Service} (hsv : p.store.Backs sv) :
    Sound { p with services := p.services.set ref sv } where
  faithful := h.faithful
  backs := by
    intro ref' sv' hsv'
    have hset : (p.services.set ref sv).get? ref' = some sv' := hsv'
    rw [Arena.get?_set] at hset
    split at hset
    · obtain ⟨-, -, rfl⟩ := Option.map_eq_some_iff.1 hset
      exact hsv
    · exact h.backs ref' sv' hset

/-- A call changes the fallback locale of no resolver but the one it names. -/
def Act.Spares (a : Act) (r : Ref Resolver) : Prop :=
  ∀ l, a ≠ .use (.setFallback r l)

/-- A call on a service that kept resolvers. -/
theorem Sound.of_run (h : p.Sound) {spared : Ref Resolver → Prop} (ref : Ref Service)
    {r : ServiceRun} (hr : r.Keeps spared p.store) :
    Sound { p with store := r.store, services := p.services.set ref r.service } :=
  (h.of_keeps hr.store).set ref hr.backs

/-- Every call keeps resolvers. -/
theorem after_keeps (h : p.Sound) (a : Act) :
    Store.Keeps a.Spares p.store (p.after a).store ∧ (p.after a).Sound := by
  -- most calls that come to nothing leave the store as it is
  have hrefl : Store.Keeps a.Spares p.store p.store := .refl h.faithful
  cases a with
  | question | setLevel => exact ⟨hrefl, h⟩
  | use e =>
    have hkeeps : Store.Keeps (Act.Spares (.use e)) p.store (p.store.step e) := by
      apply (Store.keeps_step h.faithful e).mono
      intro r hr l he
      exact hr l (congrArg Act.use he)
    exact ⟨hkeeps, h.of_keeps hkeeps⟩
  | load o fs clock dir extensions =>
    simp only [after, perform]
    cases (o.loadBag fs clock dir extensions).answer with
    | error f => exact ⟨hrefl, h⟩
    | ok b =>
      have hkeeps : Store.Keeps (Act.Spares (.load o fs clock dir extensions)) p.store
          (p.store.addBag b).2 :=
        Store.keeps_of_resolvers h.faithful (p.store.resolvers_addBag b)
      exact ⟨hkeeps, h.of_keeps hkeeps⟩
  | setUp o =>
    simp only [after, perform]
    cases hsv : Service.ofOptions o with
    | error f => exact ⟨hrefl, h⟩
    | ok sv =>
      -- a new service has no resolver yet, so nothing needs to be in the store
      exact ⟨hrefl, h.push (Service.backs_of_resolver_eq_none (Service.idle_of_ofOptions hsv).1)⟩
  | create env fs clock ended =>
    -- setting up may add a resolver even where it fails later
    have hcreate : Store.Keeps (Act.Spares (.create env fs clock ended)) p.store
        (Service.create env p.store fs clock ended).store ∧ _ :=
      Service.create_keeps h.faithful env fs clock ended
    obtain ⟨hkeeps, hbacks⟩ := hcreate
    simp only [after, perform]
    cases hanswer : (Service.create env p.store fs clock ended).answer with
    | error f => exact ⟨hkeeps, h.of_keeps hkeeps⟩
    | ok sv => exact ⟨hkeeps, (h.of_keeps hkeeps).push (hbacks sv hanswer)⟩
  | arrive => exact ⟨hrefl, h.faithful, h.backs⟩
  | install ref b =>
    simp only [after, perform, withService]
    cases hsv : p.services.get? ref with
    | none => exact ⟨hrefl, h⟩
    | some sv =>
      have hr : (sv.install p.store b).Keeps (Act.Spares (.install ref b)) p.store :=
        Service.install_keeps h.faithful (h.backs ref sv hsv) b
      exact ⟨hr.store, h.of_run ref hr⟩
  | begin ref =>
    simp only [after, perform, withService]
    cases hsv : p.services.get? ref with
    | none => exact ⟨hrefl, h⟩
    | some sv => exact ⟨hrefl, h.set ref (Service.backs_begin (h.backs ref sv hsv))⟩
  | finish ref fs clock ended =>
    simp only [after, perform, withService]
    cases hsv : p.services.get? ref with
    | none => exact ⟨hrefl, h⟩
    | some sv =>
      simp only [Option.elim_some]
      -- a load that is not under way does not end
      split
      · have hr : (sv.finish p.store (sv.load fs clock ended).answer).Keeps
            (Act.Spares (.finish ref fs clock ended)) p.store :=
          Service.finish_keeps h.faithful (h.backs ref sv hsv) _
        exact ⟨hr.store, h.of_run ref hr⟩
      · exact ⟨hrefl, h⟩
  | translate ref l domain id c =>
    simp only [after, perform, withService]
    cases p.services.get? ref with
    | none => exact ⟨hrefl, h⟩
    | some sv =>
      have hkeeps : Store.Keeps (Act.Spares (.translate ref l domain id c)) p.store
          (sv.message p.store l domain id c).2 :=
        Service.message_keeps h.faithful l domain id c
      exact ⟨hkeeps, h.of_keeps hkeeps⟩
  | negotiate ref header | detect ref hs =>
    simp only [after, perform, withService]
    cases p.services.get? ref <;> exact ⟨hrefl, h⟩
  | handle q ref hs =>
    simp only [after, perform, withRequest, withService]
    cases p.requests.get? q with
    | none => exact ⟨hrefl, h⟩
    | some request =>
      cases p.services.get? ref with
      | none => exact ⟨hrefl, h⟩
      | some sv => exact ⟨hrefl, h.faithful, h.backs⟩
  | ask q domain id c =>
    simp only [after, perform, withRequest]
    cases p.requests.get? q with
    | none => exact ⟨hrefl, h⟩
    | some request =>
      simp only [Option.elim_some]
      cases hmessage : request.message p.store domain id c with
      | none => exact ⟨hrefl, h⟩
      | some r =>
        have hkeeps : Store.Keeps (Act.Spares (.ask q domain id c)) p.store r.2 :=
          request.message_keeps h.faithful hmessage
        exact ⟨hkeeps, h.of_keeps hkeeps⟩

/-- Every row of calls keeps resolvers, and the fallback locale of one that all calls spare. -/
theorem run_keeps (h : p.Sound) (acts : List Act) :
    Store.Keeps (fun r => ∀ a ∈ acts, a.Spares r) p.store (p.run acts).store ∧
      (p.run acts).Sound := by
  induction acts generalizing p with
  | nil => exact ⟨.refl h.faithful, h⟩
  | cons a acts ih =>
    obtain ⟨hfirst, hsound⟩ := after_keeps h a
    obtain ⟨hrest, hsound'⟩ := ih hsound
    refine ⟨(hfirst.mono fun r hr => hr a List.mem_cons_self).trans ?_, hsound'⟩
    exact hrest.mono fun r hr a' ha' => hr a' (List.mem_cons_of_mem a ha')

end Session

end Phrasebook

import Phrasebook.Proofs.Formatter
import Phrasebook.Proofs.Resolution.Chain

namespace Phrasebook

/-!
# The views of a lookup

A resolver can be asked for a message outright, for the message or the error of this library that
there is instead, for the template alone, and whether there is one.  What it replies to one of these
decides what it replies to the others.

* `Bag.renderedBy`: a message along a chain, by a rule for templates that are found.
* `attempt_eq_success_iff`, `attempt_eq_refused_iff`, `attempt_eq_error_iff`: an attempt against the
  message itself.
* `Lookup`, `Lookup.Agrees`: the replies about one message, and what they say about each other.
* `Store.AnswersBy`: a resolver that answers by a rule; `Store.AnswersBy.step` and
  `Store.AnswersBy.run` keep it through every row of queries.
* `Store.views_agree`: the replies of a resolver agree, whatever was asked before.
-/

/-! ### A message by a rule -/

/-- The message of a domain and an id along a chain, by a rule for templates that are found. -/
def Bag.renderedBy (b : Bag) (rule : Locale → String → Context → Outcome) (chain : List Locale)
    (domain id : String) (c : Context) : Except Failure Rendered :=
  match b.resolve chain domain id with
  | none => .error (.fault (.notFound domain id chain))
  | some p => p.answer domain id (rule p.locale p.template c)

/-- A message that is not found is a fault, with the locales looked into. -/
theorem Bag.renderedBy_of_none {b : Bag} {chain : List Locale} {domain id : String}
    (h : b.resolve chain domain id = none) (rule : Locale → String → Context → Outcome)
    (c : Context) :
    b.renderedBy rule chain domain id c = .error (.fault (.notFound domain id chain)) := by
  rw [renderedBy, h]

/-- A message that is found is formatted in the locale where it was found. -/
theorem Bag.renderedBy_of_some {b : Bag} {chain : List Locale} {domain id : String} {p : Resolved}
    (h : b.resolve chain domain id = some p) (rule : Locale → String → Context → Outcome)
    (c : Context) :
    b.renderedBy rule chain domain id c = p.answer domain id (rule p.locale p.template c) := by
  rw [renderedBy, h]

/-- A steady formatter renders by its rule, and goes on as it is. -/
theorem render_steady {f : Formatter} (h : f.Steady) (b : Bag) (chain : List Locale)
    (domain id : String) (c : Context) :
    (render b chain f domain id c).1 = b.renderedBy f.rule chain domain id c ∧
      (render b chain f domain id c).2.Steady ∧ (render b chain f domain id c).2.rule = f.rule := by
  cases hfound : b.resolve chain domain id with
  | none =>
    simp only [render, hfound, Bag.renderedBy_of_none hfound, true_and, and_true]
    exact h
  | some p =>
    obtain ⟨hanswer, hsteady, hrule⟩ := h.format p.locale p.template c
    simp only [render, hfound, Bag.renderedBy_of_some hfound, hanswer, true_and]
    exact ⟨hsteady, hrule⟩

/-! ### Attempts -/

/-- An attempt succeeds just where the message is rendered. -/
theorem attempt_eq_success_iff (m : Except Failure Rendered) (p : Rendered) :
    attempt m = .ok (.success p) ↔ m = .ok p := by
  cases m with
  | ok q => simp [attempt]
  | error f => cases f <;> simp [attempt]

/-- An attempt is refused just where the message is, for a fault. -/
theorem attempt_eq_refused_iff (m : Except Failure Rendered) (e : Fault) :
    attempt m = .ok (.refused e) ↔ m = .error (.fault e) := by
  cases m with
  | ok q => simp [attempt]
  | error f => cases f <;> simp [attempt]

/-- An attempt fails with what is no error of this library, and only with that. -/
theorem attempt_eq_error_iff (m : Except Failure Rendered) (f : Failure) :
    attempt m = .error f ↔ m = .error f ∧ ∀ e, f ≠ .fault e := by
  cases m with
  | ok q => simp [attempt]
  | error g =>
    cases g with
    | fault e =>
      refine iff_of_false (by simp [attempt]) ?_
      rintro ⟨heq, hne⟩
      exact hne e (Except.error.inj heq).symm
    | _ =>
      simp only [attempt, Except.error.injEq]
      constructor
      · rintro rfl
        exact ⟨rfl, fun e => by simp⟩
      · exact fun h => h.1

/-- The text of a message is that of what is rendered. -/
theorem map_message_eq_ok_iff (m : Except Failure Rendered) (text : String) :
    m.map Rendered.message = .ok text ↔ ∃ l, m = .ok ⟨text, l⟩ := by
  cases m with
  | error f => simp [Except.map]
  | ok p =>
    simp only [Except.map, Except.ok.injEq]
    constructor
    · rintro rfl
      exact ⟨p.locale, rfl⟩
    · rintro ⟨l, rfl⟩
      rfl

/-- There is no text just where nothing is rendered. -/
theorem map_message_eq_error_iff (m : Except Failure Rendered) (f : Failure) :
    m.map Rendered.message = .error f ↔ m = .error f := by
  cases m <;> simp [Except.map]

/-! ### Replies about one message -/

/-- The replies to everything that can be asked about one message. -/
structure Lookup where
  message : Except Failure String
  attempt : Except Failure Attempt
  template : Option Resolved
  present : Bool
  tried : List Locale

/-- What the replies about one message say about each other, where `outcome` tells what formatting
    a template comes to. -/
structure Lookup.Agrees (v : Lookup) (domain id : String) (outcome : Resolved → Outcome) :
    Prop where
  present_iff : v.present = true ↔ ∃ p, v.template = some p
  message_iff : ∀ text, v.message = .ok text ↔ ∃ l, v.attempt = .ok (.success ⟨text, l⟩)
  success_iff : ∀ q, v.attempt = .ok (.success q) ↔
    ∃ p, v.template = some p ∧ p.locale = q.locale ∧ outcome p = .formatted q.message
  refused_iff : ∀ e, v.message = .error (.fault e) ↔ v.attempt = .ok (.refused e)
  error_iff : ∀ f, v.attempt = .error f ↔ v.message = .error f ∧ ∀ e, f ≠ .fault e
  notFound_iff : ∀ d i tried, v.message = .error (.fault (.notFound d i tried)) ↔
    (v.present = false ∧ d = domain ∧ i = id ∧ tried = v.tried) ∨
      ∃ p, v.template = some p ∧ outcome p = .failed (.fault (.notFound d i tried))
  missingCount_iff : ∀ l d i, v.message = .error (.fault (.missingCount l d i)) ↔
    (∃ p, v.template = some p ∧ outcome p = .missingCount ∧ l = p.locale ∧ d = domain ∧ i = id) ∨
      ∃ p, v.template = some p ∧ outcome p = .failed (.fault (.missingCount l d i))
  failed : ∀ p f, v.template = some p → outcome p = .failed f → v.message = .error f

/-- The replies about one message, from a bag, a chain and a rule alone. -/
def Bag.lookup (b : Bag) (rule : Locale → String → Context → Outcome) (chain : List Locale)
    (domain id : String) (c : Context) : Lookup where
  message := (b.renderedBy rule chain domain id c).map Rendered.message
  attempt := Phrasebook.attempt (b.renderedBy rule chain domain id c)
  template := b.resolve chain domain id
  present := (b.resolve chain domain id).isSome
  tried := chain

/-- What is found is rendered as what it is formatted to. -/
theorem Resolved.answer_eq_ok_iff (p : Resolved) (domain id : String) (o : Outcome)
    (q : Rendered) :
    p.answer domain id o = .ok q ↔ p.locale = q.locale ∧ o = .formatted q.message := by
  cases o with
  | formatted text =>
    simp only [answer, Except.ok.injEq, Outcome.formatted.injEq]
    constructor
    · rintro rfl
      exact ⟨rfl, rfl⟩
    · rintro ⟨hlocale, hmessage⟩
      rw [hlocale, hmessage]
  | missingCount => simp [answer]
  | failed f => simp [answer]

/-- It is refused for a missing count, or where formatting fails. -/
theorem Resolved.answer_eq_error_iff (p : Resolved) (domain id : String) (o : Outcome)
    (f : Failure) :
    p.answer domain id o = .error f ↔
      (o = .missingCount ∧ f = .fault (.missingCount p.locale domain id)) ∨ o = .failed f := by
  cases o with
  | formatted text => simp [answer]
  | missingCount => simp [answer, eq_comm]
  | failed g => simp [answer]

/-- What is looked up in a bag answers all questions alike. -/
theorem Bag.agrees_lookup (b : Bag) (rule : Locale → String → Context → Outcome)
    (chain : List Locale) (domain id : String) (c : Context) :
    (b.lookup rule chain domain id c).Agrees domain id fun p => rule p.locale p.template c where
  present_iff := Option.isSome_iff_exists
  -- each answer is compared with what is rendered, and that with what is found
  message_iff := by
    intro text
    refine (map_message_eq_ok_iff _ text).trans (exists_congr fun l => ?_)
    exact (attempt_eq_success_iff _ ⟨text, l⟩).symm
  success_iff := by
    intro q
    refine (attempt_eq_success_iff _ q).trans ?_
    show b.renderedBy rule chain domain id c = .ok q ↔ ∃ p, b.resolve chain domain id = some p ∧ _
    cases hfound : b.resolve chain domain id with
    | none => simp [renderedBy_of_none hfound]
    | some p =>
      rw [renderedBy_of_some hfound, Resolved.answer_eq_ok_iff]
      simp
  refused_iff := by
    intro e
    refine (map_message_eq_error_iff _ _).trans ?_
    exact (attempt_eq_refused_iff _ e).symm
  error_iff := by
    intro f
    refine (attempt_eq_error_iff _ f).trans (and_congr_left fun _ => ?_)
    exact (map_message_eq_error_iff _ f).symm
  -- what is not found is reported with the chain, and nothing that is found is reported so
  notFound_iff := by
    intro d i tried
    refine (map_message_eq_error_iff _ _).trans ?_
    show b.renderedBy rule chain domain id c = .error (.fault (.notFound d i tried)) ↔
      ((b.resolve chain domain id).isSome = false ∧ d = domain ∧ i = id ∧ tried = chain) ∨
        ∃ p, b.resolve chain domain id = some p ∧ _
    cases hfound : b.resolve chain domain id with
    | none =>
      rw [renderedBy_of_none hfound]
      simp [eq_comm]
    | some p =>
      rw [renderedBy_of_some hfound, Resolved.answer_eq_error_iff]
      simp
  missingCount_iff := by
    intro l d i
    refine (map_message_eq_error_iff _ _).trans ?_
    show b.renderedBy rule chain domain id c = .error (.fault (.missingCount l d i)) ↔
      (∃ p, b.resolve chain domain id = some p ∧ _) ∨ ∃ p, b.resolve chain domain id = some p ∧ _
    cases hfound : b.resolve chain domain id with
    | none => simp [renderedBy_of_none hfound]
    | some p =>
      rw [renderedBy_of_some hfound, Resolved.answer_eq_error_iff]
      simp
  failed := by
    intro p f hfound hfailed
    refine (map_message_eq_error_iff _ f).2 ?_
    rw [renderedBy_of_some hfound, Resolved.answer_eq_error_iff]
    exact Or.inr hfailed

/-! ### Replies in a store -/

/-- The reply to a query, from a bag, a fallback locale and a rule alone. -/
def Query.replyBy (b : Bag) (fallback : Option Locale)
    (rule : Locale → String → Context → Outcome) : Query → Reply
  | .translate l domain id given =>
    .message (b.lookup rule (lookupChain fallback l) domain id (.ofGiven given)).message
  | .tryTranslate l domain id given =>
    .attempt (b.lookup rule (lookupChain fallback l) domain id (.ofGiven given)).attempt
  | .resolve l domain id => .template (b.resolve (lookupChain fallback l) domain id)
  | .has l domain id => .presence (b.resolve (lookupChain fallback l) domain id).isSome
  | .chain l => .locales (lookupChain fallback l)

namespace Store

/-- The reply of the resolver at a reference. -/
def reply? (s : Store) (r : Ref Resolver) (q : Query) : Option Reply :=
  (s.ask r q).map Prod.fst

/-- The resolver at a reference gives these replies about one message. -/
structure Shows (s : Store) (r : Ref Resolver) (l : Locale) (domain id : String) (given : Given)
    (v : Lookup) : Prop where
  translate : s.reply? r (.translate l domain id given) = some (.message v.message)
  tryTranslate : s.reply? r (.tryTranslate l domain id given) = some (.attempt v.attempt)
  resolve : s.reply? r (.resolve l domain id) = some (.template v.template)
  has : s.reply? r (.has l domain id) = some (.presence v.present)
  chain : s.reply? r (.chain l) = some (.locales v.tried)

/-- The resolver at a reference looks into this bag, falls back to this locale, and formats by this
    rule, whatever its formatter remembers. -/
def AnswersBy (s : Store) (r : Ref Resolver) (b : Bag) (fallback : Option Locale)
    (rule : Locale → String → Context → Outcome) : Prop :=
  ∃ x, s.resolver? r = some x ∧ x.formatter.Steady ∧ x.formatter.rule = rule ∧
    x.fallback = fallback ∧ s.bagBehind x = b

variable {s : Store} {r : Ref Resolver} {b : Bag} {fallback : Option Locale}
  {rule : Locale → String → Context → Outcome}

/-- A message, and the resolver that goes on as it is. -/
theorem AnswersBy.message (h : s.AnswersBy r b fallback rule) (l : Locale) (domain id : String)
    (c : Context) : ∃ t : Store,
      s.message r l domain id c
        = some (b.renderedBy rule (lookupChain fallback l) domain id c, t) ∧
      t.AnswersBy r b fallback rule := by
  obtain ⟨x, hx, hsteady, rfl, rfl, rfl⟩ := h
  obtain ⟨hanswer, hafter, hrule⟩ := render_steady hsteady (s.bagBehind x) (x.chain l) domain id c
  let y : Resolver := { x with
    formatter := (render (s.bagBehind x) (x.chain l) x.formatter domain id c).2 }
  refine ⟨s.setResolver r y, ?_, y, ?_, hafter, hrule, rfl, rfl⟩
  · show (s.resolver? r).map _ = _
    rw [hx, Option.map_some, Option.some.injEq]
    exact Prod.ext hanswer rfl
  · rw [resolver?_setResolver, if_pos rfl, hx]
    rfl

/-- A resolver answers a question by its bag, and goes on to do so. -/
theorem AnswersBy.ask (h : s.AnswersBy r b fallback rule) (q : Query) : ∃ t : Store,
    s.ask r q = some (q.replyBy b fallback rule, t) ∧ t.AnswersBy r b fallback rule := by
  cases q with
  | translate l domain id given | tryTranslate l domain id given =>
    obtain ⟨t, hmessage, ht⟩ := h.message l domain id (.ofGiven given)
    refine ⟨t, ?_, ht⟩
    rw [Store.ask, hmessage]
    rfl
  | resolve l domain id | has l domain id | chain l =>
    refine ⟨s, ?_, h⟩
    obtain ⟨x, hx, -, -, rfl, rfl⟩ := h
    rw [Store.ask, hx]
    rfl

/-- Asking one resolver leaves the others as they are. -/
theorem resolver?_of_ask {t : Store} {r' : Ref Resolver} {q : Query} {reply : Reply}
    (hask : s.ask r' q = some (reply, t)) (hne : r ≠ r') : t.resolver? r = s.resolver? r := by
  rcases eq_or_setResolver_of_ask hask with rfl | ⟨x, f, -, rfl⟩
  · rfl
  · rw [resolver?_setResolver, if_neg hne]

/-- One query, of this resolver or of another one. -/
theorem AnswersBy.step (h : s.AnswersBy r b fallback rule) (r' : Ref Resolver) (q : Query) :
    (s.step (.ask r' q)).AnswersBy r b fallback rule := by
  rw [Store.step]
  by_cases hr : r = r'
  · -- the resolver itself only remembers more
    obtain ⟨t, hask, ht⟩ := h.ask q
    rw [← hr, hask]
    exact ht
  · cases hask : s.ask r' q with
    | none => exact h
    | some p =>
      -- another one leaves this one, its bag and the catalogues alone
      obtain ⟨x, hx, hsteady, hrule, hfallback, hbag⟩ := h
      obtain ⟨hcatalogues, hbags⟩ := catalogues_bags_of_ask hask
      refine ⟨x, (resolver?_of_ask hask hr).trans hx, hsteady, hrule, hfallback, ?_⟩
      show (p.2.bag? x.bag).getD Bag.empty = b
      rw [bag?_congr hcatalogues hbags]
      exact hbag

/-- Every row of queries. -/
theorem AnswersBy.run (h : s.AnswersBy r b fallback rule)
    (earlier : List (Ref Resolver × Query)) :
    (s.run (earlier.map fun p => .ask p.1 p.2)).AnswersBy r b fallback rule := by
  induction earlier generalizing s with
  | nil => exact h
  | cons p earlier ih => exact ih (h.step p.1 p.2)

/-- It shows of each message what is looked up in its bag. -/
theorem AnswersBy.shows (h : s.AnswersBy r b fallback rule) (l : Locale) (domain id : String)
    (given : Given) : s.Shows r l domain id given
      (b.lookup rule (lookupChain fallback l) domain id (.ofGiven given)) := by
  have hreply : ∀ q, s.reply? r q = some (q.replyBy b fallback rule) := by
    intro q
    obtain ⟨t, hask, -⟩ := h.ask q
    rw [reply?, hask]
    rfl
  exact ⟨hreply _, hreply _, hreply _, hreply _, hreply _⟩

/-- What a resolver with a steady formatter replies about one message is the same after every row of
    queries, and its replies agree with each other.  The error for a message that is nowhere names
    the tags of the locales tried, each once, and the error for a missing count the locale whose
    template it is. -/
theorem views_agree {s : Store} {r : Ref Resolver} {x : Resolver} (hx : s.resolver? r = some x)
    (hf : x.formatter.Steady) (l : Locale) (domain id : String) (given : Given) :
    ∃ v : Lookup,
      (∀ earlier : List (Ref Resolver × Query),
        (s.run (earlier.map fun p => .ask p.1 p.2)).Shows r l domain id given v) ∧
      v.Agrees domain id (fun p => x.formatter.rule p.locale p.template (.ofGiven given)) ∧
      (v.tried.map Locale.tag).Nodup ∧
      (Fault.notFound domain id v.tried).details = some [("domain", .text domain),
        ("id", .text id), ("attemptedLocales", .list (v.tried.map fun k => .text k.tag))] ∧
      ∀ p, v.template = some p → (Fault.missingCount p.locale domain id).details = some
        [("locale", .text p.locale.tag), ("domain", .text domain), ("id", .text id)] := by
  have hanswers : s.AnswersBy r (s.bagBehind x) x.fallback x.formatter.rule :=
    ⟨x, hx, hf, rfl, rfl, rfl⟩
  exact ⟨_, fun earlier => (hanswers.run earlier).shows l domain id given,
    Bag.agrees_lookup _ _ _ domain id _, nodup_tags_lookupChain x.fallback l, rfl,
    fun _ _ => rfl⟩

/-- A variant is asked for, the template is that of its language, and the formatter of the caller's
    own reports a missing count: the error names the language. -/
theorem views_agree_missingCount :
    let ar : Locale := ⟨⟨6, lt_length_localeTable (by decide)⟩⟩
    let arDZ : Locale := ⟨⟨7, lt_length_localeTable (by decide)⟩⟩
    let x : Resolver := { bag := ⟨0⟩, formatter := .custom fun _ _ _ => .missingCount }
    let s := ((empty.run [.newCatalogue ar [("m", [("a", "one")])], .newBag [⟨0⟩]]).addResolver x).2
    s.resolver? ⟨0⟩ = some x ∧ x.formatter.Steady ∧
      ∃ v, s.Shows ⟨0⟩ arDZ "m" "a" .nothing v ∧
        v.message = .error (.fault (.missingCount ar "m" "a")) := by
  intro ar arDZ x s
  have hx : s.resolver? ⟨0⟩ = some x := rfl
  have hf : x.formatter.Steady := trivial
  obtain ⟨v, hshows, hagrees, -⟩ := views_agree hx hf arDZ "m" "a" .nothing
  have htemplate : v.template = some ⟨ar, "one"⟩ := by
    have hreply : s.reply? ⟨0⟩ (.resolve arDZ "m" "a")
        = some (.template (s.resolve x arDZ "m" "a")) := rfl
    have hresolve : s.resolve x arDZ "m" "a" = some ⟨ar, "one"⟩ := by decide +kernel
    have hsame := (hshows []).resolve.symm.trans hreply
    rw [hresolve] at hsame
    exact Reply.template.inj (Option.some.inj hsame)
  refine ⟨hx, hf, v, hshows [], (hagrees.missingCount_iff ar "m" "a").2 (Or.inl ?_)⟩
  exact ⟨⟨ar, "one"⟩, htemplate, rfl, rfl, rfl, rfl⟩

end Store

end Phrasebook

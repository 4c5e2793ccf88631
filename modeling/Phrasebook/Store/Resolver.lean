import Phrasebook.Store.Basic

namespace Phrasebook

/-!
# Resolvers

A resolver answers for messages out of the bag it shares with others; only its fallback locale can
be changed, and only its formatter remembers anything.

* `Resolver.chain`: the locales it tries for one.
* `Store.resolve`: the template it finds.
* `Store.message`: the message it gives; `attempt` turns the errors of this library into answers.
* `Resolver.setFallback`: its fallback locale changed.
-/

namespace Resolver

/-- A resolver, given the fallback locale that an option states. -/
def ofOptions (bag : Ref HeldBag) (fallback : Option LocaleRef) (formatter : Formatter) :
    Except Fault Resolver :=
  (fallbackOption fallback).map fun l => { bag := bag, fallback := l, formatter := formatter }

/-- The locales that are tried for one. -/
def chain (x : Resolver) (l : Locale) : List Locale :=
  lookupChain x.fallback l

/-- The fallback locale changed, or switched off; a tag that names no locale changes nothing. -/
def setFallback (x : Resolver) (l : Option LocaleRef) : Except Fault Resolver :=
  (localeOrOff l).map fun l => { x with fallback := l }

end Resolver

namespace Store

/-- The template that a resolver finds. -/
def resolve (s : Store) (x : Resolver) (l : Locale) (domain id : String) : Option Resolved :=
  (s.bagBehind x).resolve (x.chain l) domain id

/-- Whether a resolver finds a template. -/
def resolves (s : Store) (x : Resolver) (l : Locale) (domain id : String) : Bool :=
  (s.resolve x l domain id).isSome

/-- The message that a resolver gives, and the resolver after it. -/
def renderWith (s : Store) (x : Resolver) (l : Locale) (domain id : String) (c : Context) :
    Except Failure Rendered × Resolver :=
  let (answer, formatter) := render (s.bagBehind x) (x.chain l) x.formatter domain id c
  (answer, { x with formatter := formatter })

/-- The message that the resolver at a reference gives, and the store after it; nothing where there
    is no resolver. -/
def message (s : Store) (r : Ref Resolver) (l : Locale) (domain id : String) (c : Context) :
    Option (Except Failure Rendered × Store) :=
  (s.resolver? r).map fun x =>
    let (answer, x) := s.renderWith x l domain id c
    (answer, s.setResolver r x)

end Store

end Phrasebook

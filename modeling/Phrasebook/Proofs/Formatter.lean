import Phrasebook.Proofs.Store.History

namespace Phrasebook.Formatter

/-!
# Formatters that answer alike

A formatter may remember templates, but what it has been used for is not to be seen in its answers.

* `rule`: what a formatter answers, its memory left out of account.
* `Steady`: the formatters that answer by their rule; `Steady.format` is one use, `Steady.after` any
  row of uses.
-/

/-- What a formatter answers, its memory left out of account. -/
def rule : Formatter → Locale → String → Context → Outcome
  | cached _ => fun _ source c => formatSource source c
  | custom answer => answer

/-- A formatter that answers the same inputs in the same way.  A rule of a caller's own does so by
    itself, and a cache if it keeps what its sources write. -/
def Steady : Formatter → Prop
  | cached cache => cache.Faithful
  | custom _ => True

/-- A formatter with faithful caches is steady. -/
theorem steady_of_faithful {f : Formatter} (h : f.Faithful) : f.Steady := by
  cases f with
  | cached cache => exact h
  | custom answer => exact absurd h id

/-- Its rule is to read the source and to format that. -/
theorem rule_of_faithful {f : Formatter} (h : f.Faithful) :
    f.rule = fun _ source c => formatSource source c := by
  cases f with
  | cached cache => rfl
  | custom answer => exact absurd h id

/-- A steady formatter answers by its rule, and goes on as it is. -/
theorem Steady.format {f : Formatter} (h : f.Steady) (l : Locale) (source : String) (c : Context) :
    (f.format l source c).1 = f.rule l source c ∧ (f.format l source c).2.Steady ∧
      (f.format l source c).2.rule = f.rule := by
  cases f with
  | custom answer => exact ⟨rfl, trivial, rfl⟩
  | cached cache =>
    have hfaithful : (cached cache).Faithful := h
    obtain ⟨hanswer, hafter⟩ := hfaithful.format l source c
    exact ⟨hanswer, steady_of_faithful hafter, rule_of_faithful hafter⟩

/-- A formatter after a row of uses. -/
def after (f : Formatter) (uses : List (Locale × String × Context)) : Formatter :=
  uses.foldl (fun f u => (f.format u.1 u.2.1 u.2.2).2) f

/-- A steady formatter stays steady and keeps its rule, whatever it is used for. -/
theorem Steady.after {f : Formatter} (h : f.Steady) (uses : List (Locale × String × Context)) :
    (f.after uses).Steady ∧ (f.after uses).rule = f.rule := by
  induction uses generalizing f with
  | nil => exact ⟨h, rfl⟩
  | cons u uses ih =>
    obtain ⟨-, hsteady, hrule⟩ := h.format u.1 u.2.1 u.2.2
    have hrest := ih hsteady
    exact ⟨hrest.1, hrest.2.trans hrule⟩

end Phrasebook.Formatter

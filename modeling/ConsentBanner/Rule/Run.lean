import ConsentBanner.Flow.Primitive
import ConsentBanner.Rule.Config

/-!
# Running steps

What a step does and what it comes to.  The checks of a step and its conditional run side by side; a
step succeeds when there was something to check and all of it held.
-/

set_option autoImplicit false

namespace ConsentBanner

def StepCheck.run (timings : Timings) : StepCheck → Flow Bool
  | .exists selector => Primitive.isPresent selector
  | .visible selector mode => Primitive.isVisible selector mode
  | .eval code => Primitive.eval timings code
  | .waitFor selector limit => Primitive.waitForElement timings selector limit
  | .waitForVisible selector limit mode => Primitive.waitForVisible timings selector limit mode
  | .click selector all => Primitive.click selector all
  | .waitForThenClick selector limit all => Primitive.waitForThenClick timings selector limit all
  | .wait time => Primitive.wait time
  | .hide selectors method => Primitive.hide selectors method

/-- What results come to: there must be some, and all must be good. -/
def stepOutcome (results : List Bool) : Bool := !results.isEmpty && results.all fun ok => ok

mutual

def RuleStep.run (timings : Timings) : RuleStep → Flow Bool
  | ⟨checks, conditional, _⟩ =>
    .both (Flow.all (checks.map (StepCheck.run timings)))
      (match conditional with
        | none => .done none
        | some conditional => conditional.run timings)
      fun results branch => .done (stepOutcome (results ++ branch.toList))

/-- What a conditional does.  It comes to nothing if no branch is there to be run, and fails if its
test tests nothing. -/
def Conditional.run (timings : Timings) : Conditional → Flow (Option Bool)
  | ⟨test, thenSteps, elseSteps⟩ =>
    if test.isValidCondition then do
      if ← test.run timings then
        return some (← runInOrder timings thenSteps)
      else
        match elseSteps with
        | none => return none
        | some steps => return some (← runInOrder timings steps)
    else return some false

/-- Runs steps one after the other up to the first that fails and may not. -/
def runInOrder (timings : Timings) : List RuleStep → Flow Bool
  | [] => pure true
  | step :: rest => do
    let succeeded ← step.run timings
    if succeeded || step.isOptional then runInOrder timings rest else return false

end

/-- Runs steps side by side; all must succeed. -/
def runSideBySide (timings : Timings) (steps : List RuleStep) : Flow Bool := do
  return (← Flow.all (steps.map (RuleStep.run timings))).all fun ok => ok

end ConsentBanner

import ConsentBanner.Engine.Detection

/-!
# Making a decision

The handler whose dialog was confirmed refuses or allows, what was hidden for the time being is shown
again, and the outcome is reported.
-/

set_option autoImplicit false

namespace ConsentBanner.Engine

/-- Hides the dialogs of all handlers, and of one platform that is always hidden, until a decision was
made. -/
def prehide : Flow Bool := do
  let handlers := (← state).handlers
  Primitive.prehide
    (Hiding.everywhere :: handlers.flatMap fun handler => handler.traits.prehideSelectors)

/-- Shows again what was hidden, if anything is hidden at all. -/
def undoPrehide : Flow Unit := do
  if (← state).config.enablePrehide then
    let _ ← Primitive.undoPrehide

inductive Decision where
  | optOut
  | optIn
  deriving DecidableEq, Repr

def Decision.routine : Decision → Routine
  | .optOut => .optOut
  | .optIn => .optIn

def Decision.report (decision : Decision) (cmp : String) (result selfTest : Bool) (url : String) :
    Outbound :=
  match decision with
  | .optOut => .optOutResult cmp result selfTest url
  | .optIn => .optInResult cmp result false url

/-- The name in a report of what no handler did. -/
def nobody : String := "none"

def reportedName : Option Handler → String
  | some handler => handler.name
  | none => nobody

/-- A handler, if there is one, does something; a failure counts as no. -/
def attempt (timings : Timings) (found : Option Handler) (routine : Routine) : Flow Bool :=
  match found with
  | some handler => handler.attempt timings routine
  | none => pure false

def holds (found : Option Handler) (property : Handler → Flow Bool) : Flow Bool :=
  match found with
  | some handler => property handler
  | none => pure false

/-- The confirmed handler carries a decision out.  A success that does not only lead to another dialog
completes the page. -/
def execute (timings : Timings) (decision : Decision) : Flow Bool := do
  enter .executing
  let found := (← state).found
  let result ← attempt timings found decision.routine
  undoPrehide
  enter .reporting
  let url ← Primitive.url
  let cmp := reportedName found
  Flow.send (decision.report cmp result (← holds found Handler.hasSelfTest) url)
  if result then
    if ← holds found fun handler => do return !(← handler.isIntermediate) then
      Flow.send (.autoconsentDone cmp url)
  enter .done
  return result

/-- The confirmed handler says whether opting out had effect. -/
def selfTest (timings : Timings) : Flow Bool := do
  let found := (← state).found
  let result ← attempt timings found .selfTest
  let url ← Primitive.url
  Flow.send (.selfTestResult (reportedName found) result url)
  return result

end ConsentBanner.Engine

import ConsentBanner.Rule.Methods
import ConsentBanner.Rule.Run
import ConsentBanner.Vendor.Routines

/-!
# Running handlers

What a handler does in each of its routines, whatever plan it follows, and what is known of it without
running it.
-/

set_option autoImplicit false

namespace ConsentBanner

def StepRule.run (timings : Timings) (rule : StepRule) : Routine → Flow Bool
  | .detect =>
    match rule.detectCmp with
    | some steps => runSideBySide timings steps
    | none => pure Routine.detect.usual
  | .popup => inOrder .popup rule.detectPopup
  | .optOut => inOrder .optOut rule.optOut
  | .optIn => inOrder .optIn rule.optIn
  | .openSettings => inOrder .openSettings rule.openCmp
  | .selfTest => inOrder .selfTest rule.test
where
  /-- Steps one after the other, where there are any. -/
  inOrder (routine : Routine) : Option (List RuleStep) → Flow Bool
    | some steps => runInOrder timings steps
    | none => pure routine.usual

def MethodRule.run (timings : Timings) (rule : MethodRule) : Routine → Deed Bool
  | .detect => ExceptT.lift rule.detect
  | .popup => ExceptT.lift rule.popup
  | .optOut => rule.decide timings []
  | .optIn => rule.decide timings Category.all
  | .openSettings => rule.openSettings timings
  | .selfTest => pure Routine.selfTest.usual

def Outcome.run : Outcome → Deed Bool
  | .reply value => pure value
  | .failure message => throw (.stepFailed message)
  | .delayed time outcome => do
    Deed.pause time
    outcome.run

def ScriptedHandler.covers (handler : ScriptedHandler) : Routine → Bool
  | .detect | .optOut | .optIn => true
  | _ => !handler.isMinimal

def ScriptedHandler.run (slot : Nat) (handler : ScriptedHandler) (routine : Routine) :
    Deed Bool := do
  if handler.covers routine then
    let earlier ← ExceptT.lift (Flow.request (.note ⟨slot, handler.name, routine⟩))
    (outcomeAt (handler.script routine) earlier).run
  else return routine.usual

def ScriptedHandler.traits (handler : ScriptedHandler) : Traits :=
  if handler.isMinimal then .usual
  else
    ⟨handler.context, handler.prehideSelectors, fun _ => handler.isIntermediate,
      fun _ => handler.hasSelfTest⟩

def Plan.traits : Plan → Traits
  | .vendor known => known.traits
  | .steps rule =>
    ⟨rule.runContext, rule.prehideSelectors, fun _ => rule.intermediate, fun _ => rule.test.isSome⟩
  | .methods _ _ => { Traits.usual with context := .anywhere }
  | .scripted handler => handler.traits

namespace Handler

def traits (handler : Handler) : Traits := handler.plan.traits

def run (timings : Timings) (handler : Handler) (routine : Routine) : Deed Bool :=
  match handler.plan with
  | .vendor vendor => ExceptT.lift (vendor.run timings handler.slot routine)
  | .steps rule => ExceptT.lift (rule.run timings routine)
  | .methods _ rule => rule.run timings routine
  | .scripted script => script.run handler.slot routine

def record (handler : Handler) (routine : Routine) (progress : Progress) : Flow Unit :=
  Flow.request (.record ⟨⟨handler.slot, handler.name, routine⟩, progress⟩)

/-- What comes of a routine; a failure counts as no. -/
def outcome : Except ConsentError Bool → Bool
  | .ok value => value
  | .error _ => false

/-- Has a handler do something and keeps a journal of it. -/
def attempt (timings : Timings) (handler : Handler) (routine : Routine) : Flow Bool := do
  handler.record routine .begun
  let value := outcome (← (handler.run timings routine).run)
  handler.record routine (.came value)
  return value

def allows (handler : Handler) (isTop : Bool) (url : String) : Bool :=
  handler.traits.context.allows isTop url

/-- A success of the handler only leads to another dialog, as things stand. -/
def isIntermediate (handler : Handler) : Flow Bool := do
  return handler.traits.isIntermediate (← memoryOf handler.slot)

/-- The handler can tell whether opting out had effect, as things stand. -/
def hasSelfTest (handler : Handler) : Flow Bool := do
  return handler.traits.hasSelfTest (← memoryOf handler.slot)

/-- The purposes that a handler can decide one by one. -/
def categories (handler : Handler) : List Category :=
  match handler.plan with
  | .methods _ rule => rule.categories
  | _ => []

end Handler

end ConsentBanner

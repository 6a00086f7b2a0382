import ConsentBanner.Action
import ConsentBanner.Flow.Primitive
import ConsentBanner.Flow.Resolve

/-!
# Running actions

What an action does where lookups start.  A failed call to the page ends the action and all around it,
except while waiting for an element and in page script.
-/

set_option autoImplicit false

namespace ConsentBanner

abbrev Deed (α : Type) : Type 1 := ExceptT ConsentError Flow α

namespace Deed

def look {α : Type} (lookup : Lookup α) : Deed α :=
  ExceptT.mk (lookup.run.bind fun reply => .done (reply.mapError .ofPage))

def call {α : Type} (call : PageCall α) : Deed α := look (Lookup.call call)

def pause (time : Nat) : Deed Unit := ExceptT.lift (Flow.pause time)

end Deed

/-- Where page script leaves the result of asynchronous work. -/
def resultSlot : String := "window.__consentCheckResult"

def unlessZero (given : Option Nat) (usual : Nat) : Nat :=
  match given with
  | none => usual
  | some n => if n = 0 then usual else n

def runClick (timings : Timings) (matcher : Matcher) (scope : Scope) : Deed Unit := do
  match (← Deed.look (Lookup.find matcher scope)).target with
  | some target => Deed.call (.click target)
  | none => pure ()
  Deed.pause timings.settle

/-- Marks the target as hidden, if there is one. -/
def runHide (matcher : Matcher) (scope : Scope) : Deed Unit := do
  match (← Deed.look (Lookup.find matcher scope)).target with
  | some target => Deed.call (.addClass target Hiding.hiddenClass)
  | none => pure ()

/-- Waits for the target to come, or to go.  It does not matter whether it does. -/
def runWaitCss (timings : Timings) (matcher : Matcher) (retries waitTime : Option Nat)
    (negated : Bool) (scope : Scope) : Flow Unit := do
  let look : Flow Bool := do
    match ← (Lookup.find matcher scope).run with
    | .ok resolved => return resolved.target.isSome != negated
    | .error _ => return false
  let _ ← Flow.poll look (unlessZero waitTime timings.waitCss)
    (unlessZero retries timings.waitCssRetries)

/-- The way of a drag along its axes. -/
def slideWay (axis : SlideAxis) (start goal : Rect) : Float × Float :=
  let x := goal.left - start.left
  let y := goal.top - start.top
  match axis with
  | .x => (x, 0.0)
  | .y => (0.0, y)
  | .both => (x, y)

def runSlide (timings : Timings) (matcher dragTarget : Matcher) (axis : SlideAxis)
    (scope : Scope) : Deed Unit := do
  match (← Deed.look (Lookup.find matcher scope)).target with
  | none => return
  | some target =>
    match (← Deed.look (Lookup.find dragTarget scope)).target with
    | none => return
    | some goal =>
      let start ← Deed.call (.boundingRect target)
      let there ← Deed.call (.boundingRect goal)
      let (dx, dy) := slideWay axis start there
      let (x, y) := start.center
      Deed.call (.dispatchMouse target .down x y)
      Deed.pause timings.slidePause
      Deed.call (.dispatchMouse target .move (x + dx) (y + dy))
      Deed.pause timings.slidePause
      Deed.call (.dispatchMouse target .up (x + dx) (y + dy))

/-- Runs page script; what it comes to does not matter. -/
def runScript (timings : Timings) (code : String) (isAsync : Bool) (timeout : Option Nat) :
    Flow Unit := do
  match ← Flow.page (.evaluate code) with
  | .error _ => return
  | .ok _ =>
    if isAsync then
      Flow.pause (timeout.getD timings.asyncEval)
      let _ ← Flow.page (.evaluate resultSlot)

/-- A purpose is to be allowed: it is known and among the wanted ones. -/
def isWanted (consents : List Category) (category : Option Category) : Bool :=
  category.any consents.contains

/-- Does something in each of some elements. -/
def inEach (run : Scope → Deed Unit) : List NodeId → Deed Unit
  | [] => pure ()
  | node :: rest => do
    run (.node node)
    inEach run rest

mutual

/-- What an action does where lookups start, given the purposes to be allowed. -/
def Action.run (timings : Timings) : Action → List Category → Scope → Deed Unit
  | .click matcher, _, scope => runClick timings matcher scope
  | .list actions, consents, scope => runActions timings actions consents scope
  | .consent rules, consents, scope => runConsentRules timings rules consents scope
  | .ifCss matcher whenAbsent whenPresent, consents, scope => do
    match (← Deed.look (Lookup.find matcher scope)).target with
    | none => runAction? timings whenAbsent consents scope
    | some _ => runAction? timings whenPresent consents scope
  | .waitCss matcher retries waitTime negated, _, scope =>
    ExceptT.lift (runWaitCss timings matcher retries waitTime negated scope)
  | .forEach matcher action, consents, scope => do
    let found ← Deed.look (Lookup.findAll matcher scope)
    inEach (fun inner => action.run timings consents inner) (found.filterMap Resolved.target)
  | .hide matcher, _, scope => runHide matcher scope
  | .slide matcher dragTarget axis, _, scope => runSlide timings matcher dragTarget axis scope
  | .close, _, _ => Deed.call .close
  | .wait time, _, _ => Deed.pause time
  | .evaluate code isAsync timeout, _, _ => ExceptT.lift (runScript timings code isAsync timeout)

def runAction? (timings : Timings) : Option Action → List Category → Scope → Deed Unit
  | none, _, _ => pure ()
  | some action, consents, scope => action.run timings consents scope

/-- What several actions do, one after the other. -/
def runActions (timings : Timings) : List Action → List Category → Scope → Deed Unit
  | [], _, _ => pure ()
  | action :: rest, consents, scope => do
    action.run timings consents scope
    runActions timings rest consents scope

def ConsentRule.run (timings : Timings) : ConsentRule → List Category → Scope → Deed Unit
  | ⟨category, some matcher, some toggle, _, _⟩, consents, scope => do
    let enabled ← Deed.look (Lookup.isPresent matcher scope)
    if enabled != isWanted consents category then toggle.run timings [] scope
  | ⟨category, _, _, whenTrue, whenFalse⟩, consents, scope =>
    if isWanted consents category then runAction? timings whenTrue [] scope
    else runAction? timings whenFalse [] scope

/-- Brings purposes to their wanted states, one after the other. -/
def runConsentRules (timings : Timings) : List ConsentRule → List Category → Scope → Deed Unit
  | [], _, _ => pure ()
  | rule :: rest, consents, scope => do
    rule.run timings consents scope
    runConsentRules timings rest consents scope

end

end ConsentBanner

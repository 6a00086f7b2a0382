import ConsentBanner.Handler.Traits

/-!
# The Conversant dialog

Opting out goes through the items of the first tab, opens each and refuses every purpose in it.
-/

set_option autoImplicit false

namespace ConsentBanner.Conversant

open Primitive

def receptacle : String := ".cmp-root .cmp-receptacle"

/-- What opens the settings, and later what saves the choice. -/
def secondaryButton : String := ".cmp-main-button:not(.cmp-main-button--primary)"

def activeContent : String := ".cmp-accordion-item-content.cmp-active"

def toggles : List String :=
  [".cmp-toggle-actions .cmp-toggle-deny:not(.cmp-toggle-deny--active)",
   ".cmp-toggle-actions .cmp-toggle-checkbox:not(.cmp-toggle-checkbox--active)"]

def traits : Traits := (Traits.toHide [".cmp-root"]).withSelfTest

def detect : Flow Bool := isPresent receptacle

def popup : Flow Bool := isVisible receptacle .any

def clickWithin (node : NodeId) : List String → Flow Unit
  | [] => pure ()
  | selector :: rest => do
    let _ ← clickNodes (← queryIn (.node node) selector) true
    clickWithin node rest

def isOpen (item : NodeId) : Flow Bool := do
  return !(← queryIn (.node item) activeContent).isEmpty

def refuse (item : NodeId) : Flow Unit := do
  let _ ← clickNodes (← queryIn (.node item) ".cmp-accordion-item-title") false
  let _ ← Flow.poll (isOpen item) 50 10
  match ← queryIn (.node item) activeContent with
  | [] => pure ()
  | content :: _ => clickWithin content toggles

def optOut (timings : Timings) : Flow Bool := do
  if ← waitForThenClick timings secondaryButton defaultStepTimeout false then
    if ← waitForElement timings ".cmp-view-tab-tabs" defaultStepTimeout then
      let _ ← waitForThenClick timings ".cmp-view-tab-tabs > :first-child" defaultStepTimeout false
      let _ ← waitForThenClick timings ".cmp-view-tab-tabs > .cmp-view-tab--active:first-child"
        defaultStepTimeout false
      Flow.each refuse (← query ".cmp-accordion-item")
      let _ ← click secondaryButton false
      return true
    else return false
  else return false

def optIn (timings : Timings) : Flow Bool :=
  waitForThenClick timings ".cmp-main-button.cmp-main-button--primary" defaultStepTimeout false

def selfTest : Flow Bool := do
  return Text.contains (← cookie) "cmp-data=0"

end ConsentBanner.Conversant

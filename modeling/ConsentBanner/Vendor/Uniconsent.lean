import ConsentBanner.Handler.Traits

/-!
# The UniConsent dialog

Its buttons carry no stable classes, so they are told by their labels.  Every checked purpose is
clicked before the choice is saved.
-/

set_option autoImplicit false

namespace ConsentBanner.Uniconsent

open Primitive

def box : String := ".unic .unic-box,.unic .unic-bar"

def buttons : String := ".unic button"

def checkboxes : String := ".unic input[type=checkbox]"

def manageLabels : List String := ["Manage Options", "Optionen verwalten"]

def saveLabels : List String := ["Confirm Choices", "Save Choices", "Auswahl speichern"]

def traits : Traits := (Traits.toHide [".unic", ".modal:has(.unic)"]).withSelfTest

def keepLabelled (labels : List String) : List NodeId → Flow (List NodeId)
  | [] => pure []
  | node :: rest => do
    let text ← textOf node
    let others ← keepLabelled labels rest
    return if labels.any (Text.contains text) then node :: others else others

def labelled (labels : List String) : Flow (List NodeId) := do
  keepLabelled labels (← query buttons)

def uncheckEach : List NodeId → Flow Unit
  | [] => pure ()
  | node :: rest => do
    if ← isChecked node then
      let _ ← clickNodes [node] false
    uncheckEach rest

/-- Saves the choice and lets the dialog close; says whether there was a button for it. -/
def save : Flow Bool := do
  match ← labelled saveLabels with
  | [] => return false
  | button :: _ =>
    let _ ← clickNodes [button] false
    Flow.pause 500
    return true

def detect : Flow Bool := isPresent box

def popup : Flow Bool := isVisible box .any

def optOut (timings : Timings) : Flow Bool := do
  let _ ← waitForElement timings buttons 1000
  let _ ← clickNodes (← labelled manageLabels) true
  if ← waitForElement timings checkboxes 1000 then
    let _ ← waitForElement timings buttons 1000
    uncheckEach (← query checkboxes)
    save
  else return false

def optIn (timings : Timings) : Flow Bool :=
  waitForThenClick timings ".unic #unic-agree" defaultStepTimeout false

def selfTest : Flow Bool := do
  Flow.pause 1000
  return !(← isPresent box)

end ConsentBanner.Uniconsent

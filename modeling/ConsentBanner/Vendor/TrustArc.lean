import ConsentBanner.Handler.Traits

/-!
# The TrustArc dialogs

A banner in the top frame leads to a preference manager in a frame of its own.  Where the banner has a
button that refuses everything at once it is remembered at detection and clicked; else opting out only
opens the preference manager, and the handler of that frame goes on.
-/

set_option autoImplicit false

namespace ConsentBanner

namespace TrustArcTop

open Primitive

def settingsButton : String := "#truste-show-consent"

def refuseButton : String := "#truste-consent-required"

def allowButton : String := "#truste-consent-button"

def track : String := "#truste-consent-track"

def overlays : List String := [".truste_popframe", ".truste_overlay", ".truste_box_overlay", track]

def traits : Traits :=
  { Traits.toHide [".trustarc-banner-container", String.intercalate "," overlays] with
    isIntermediate := fun memory => !memory.optInDone && memory.shortcut.isNone }

def detect (slot : Nat) : Flow Bool := do
  if ← isPresent (settingsButton ++ "," ++ track) then
    let shortcuts ← query refuseButton
    remember slot fun memory => { memory with shortcut := shortcuts.head? }
    return true
  else return false

def popup : Flow Bool :=
  isVisible ("#truste-consent-content,#trustarc-banner-overlay," ++ track) .all

def optOut (slot : Nat) : Flow Bool := do
  match (← memoryOf slot).shortcut with
  | some shortcut =>
    let _ ← clickNodes [shortcut] false
    return true
  | none =>
    let _ ← hide overlays .display
    let _ ← click settingsButton false
    return true

def optIn (slot : Nat) : Flow Bool := do
  remember slot fun memory => { memory with optInDone := true }
  click allowButton false

end TrustArcTop

namespace TrustArcFrame

open Primitive

def traits : Traits :=
  { Traits.usual with
    context := RunContext.subFrameOnly.withUrlPattern "^https://consent-pref\\.trustarc\\.com/\\?" }

def popup : Flow Bool := do
  if ← isVisible "#defaultpreferencemanager" .any then isVisible ".mainContent" .any
  else return false

/-- One of the first screens has come up. -/
def hasStarted : Flow Bool := do
  if ← isPresent ".shp" then return true
  else if ← isVisible ".advance" .any then return true
  else isPresent ".switch span:first-child"

/-- Goes past the first screens to the switches. -/
def goToSwitches (timings : Timings) : Flow Unit := do
  let _ ← Flow.poll hasStarted 500 10
  if ← isPresent ".shp" then
    let _ ← click ".shp" false
  let _ ← waitForElement timings ".prefPanel" 5000
  if ← isVisible ".advance" .any then
    let _ ← click ".advance" false
  let _ ← Flow.poll (isVisible ".switch span:first-child" .any) 1000 5

/-- Flips switches and submits; a frame that stays open then is closed. -/
def flip (timings : Timings) (switches : String) : Flow Bool := do
  goToSwitches timings
  let _ ← click switches true
  let _ ← click ".submit" false
  let _ ← click "#gwt-debug-close_id" false
  return true

def hasLoaded : Flow Bool := do
  return match ← Flow.page .readyState with
    | .ok state => state == "complete"
    | .error _ => false

def optOut (timings : Timings) : Flow Bool := do
  let _ ← Flow.poll hasLoaded 100 20
  let _ ← waitForElement timings ".mainContent[aria-hidden=false]" 5000
  if ← click ".rejectAll" false then return true
  else
    if ← isPresent ".prefPanel" then
      let _ ← waitForElement timings ".prefPanel[style=\"visibility: visible;\"]" 3000
    if ← click "#catDetails0" false then
      let _ ← click ".submit" false
      return true
    else if ← click ".required" false then return true
    else flip timings ".switch span:nth-child(1):not(.active)"

def optIn (timings : Timings) : Flow Bool := do
  if ← click ".call" false then return true
  else flip timings ".switch span:nth-child(2)"

end TrustArcFrame

end ConsentBanner

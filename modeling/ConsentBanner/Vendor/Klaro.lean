import ConsentBanner.Handler.Traits

/-!
# The Klaro dialog

It is a notice that leads to the settings, or the settings at once.  That the settings are open is
remembered, so that nothing is done to open them again.
-/

set_option autoImplicit false

namespace ConsentBanner.Klaro

open Primitive

def modal : String := ".klaro > .cookie-modal"

def declineButton : String := ".klaro .cn-decline"

def traits : Traits := (Traits.toHide [".klaro"]).withSelfTest

def noteSettings (slot : Nat) : Flow Unit :=
  remember slot fun memory => { memory with settingsOpen := true }

def detect (slot : Nat) : Flow Bool := do
  if ← isPresent modal then
    noteSettings slot
    return true
  else isPresent ".klaro > .cookie-notice"

def popup : Flow Bool := isVisible ".klaro > .cookie-notice,.klaro > .cookie-modal" .any

/-- Opens the settings, unless they are open. -/
def openChoices (timings : Timings) (slot : Nat) : Flow Unit := do
  if !(← memoryOf slot).settingsOpen then
    let _ ← click ".klaro .cn-learn-more" false
    let _ ← waitForElement timings modal 2000
    noteSettings slot

def optOut (timings : Timings) (slot : Nat) : Flow Bool := do
  if ← click declineButton false then return true
  else
    openChoices timings slot
    if ← click declineButton false then return true
    else
      let _ ← click ".cm-purpose:not(.cm-toggle-all) > input:not(.half-checked)" true
      click ".cm-btn-accept" false

def optIn (slot : Nat) : Flow Bool := do
  if ← click ".klaro .cm-btn-accept-all" false then return true
  else if (← memoryOf slot).settingsOpen then
    let _ ← click ".cm-purpose:not(.cm-toggle-all) > input.half-checked" true
    click ".cm-btn-accept" false
  else click ".klaro .cookie-notice .cm-btn-success" false

def selfTest (timings : Timings) : Flow Bool :=
  eval timings
    ("klaro.getManager().config.services.every" ++
      "(c => c.required || !klaro.getManager().consents[c.name])")

end ConsentBanner.Klaro

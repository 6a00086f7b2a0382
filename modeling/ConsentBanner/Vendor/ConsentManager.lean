import ConsentBanner.Handler.Traits

/-!
# The consentmanager.net box

Where the page lets scripts set the choice that is used; else the box is clicked through.  Which of
the two is found out at detection and remembered.
-/

set_option autoImplicit false

namespace ConsentBanner.ConsentManager

open Primitive

def box : String := "#cmpbox"

def traits : Traits :=
  { Traits.toHide ["#cmpbox,#cmpbox2"] with hasSelfTest := fun memory => memory.apiAvailable }

def detect (timings : Timings) (slot : Nat) : Flow Bool := do
  let available ← eval timings "window.__cmp && typeof __cmp(\"getCMPData\") === \"object\""
  remember slot fun memory => { memory with apiAvailable := available }
  if available then return true else isPresent box

def popup (timings : Timings) (slot : Nat) : Flow Bool := do
  if (← memoryOf slot).apiAvailable then
    Flow.pause 500
    eval timings "!__cmp('consentStatus').userChoiceExists"
  else isVisible "#cmpbox .cmpmore" .any

def clickThrough (timings : Timings) : Flow Bool := do
  if ← click ".cmpboxbtnno" false then return true
  else if ← isPresent ".cmpwelcomeprpsbtn" then
    let _ ← click ".cmpwelcomeprpsbtn > a[aria-checked=true]" true
    let _ ← click ".cmpboxbtnsave" false
    return true
  else
    let _ ← click ".cmpboxbtncustom" false
    let _ ← waitForElement timings ".cmptblbox" 2000
    let _ ← click ".cmptdchoice > a[aria-checked=true]" true
    let _ ← click ".cmpboxbtnyescustomchoices" false
    return true

def optOut (timings : Timings) (slot : Nat) : Flow Bool := do
  Flow.pause 500
  if (← memoryOf slot).apiAvailable then eval timings "__cmp('setConsent', 0)"
  else clickThrough timings

def optIn (timings : Timings) (slot : Nat) : Flow Bool := do
  if (← memoryOf slot).apiAvailable then eval timings "__cmp('setConsent', 1)"
  else click ".cmpboxbtnyes" false

def selfTest (timings : Timings) (slot : Nat) : Flow Bool := do
  if (← memoryOf slot).apiAvailable then eval timings "__cmp('consentStatus').userChoiceExists"
  else return false

end ConsentBanner.ConsentManager

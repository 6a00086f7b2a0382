import ConsentBanner.Handler.Traits

/-!
# The OneTrust banner

The settings are opened, every enabled category is switched off and the choice is saved.  The banner
stays for a moment after that.
-/

set_option autoImplicit false

namespace ConsentBanner.OneTrust

open Primitive

def banner : String := "#onetrust-banner-sdk"

def saveButton : String := ".save-preference-btn-handler,.js-consent-save"

def traits : Traits :=
  (Traits.toHide
    ["#onetrust-banner-sdk,#onetrust-consent-sdk,.onetrust-pc-dark-filter,.js-consent-banner"]
  ).withSelfTest

def detect : Flow Bool := isPresent banner

def popup : Flow Bool := isVisible banner .all

def openChoices : Flow Bool := do
  if ← isPresent "#onetrust-pc-btn-handler" then click "#onetrust-pc-btn-handler" false
  else click ".ot-sdk-show-settings,button.js-cookie-settings" false

def optOut (timings : Timings) : Flow Bool := do
  let _ ← openChoices
  let _ ← waitForElement timings "#onetrust-consent-sdk" 2000
  Flow.pause 1000
  let _ ← click
    "#onetrust-consent-sdk input.category-switch-handler:checked,.js-editor-toggle-state:checked"
    true
  Flow.pause 1000
  let _ ← waitForElement timings saveButton 2000
  let _ ← click saveButton false
  let _ ← Flow.poll (isVisible banner .none) 500 10
  return true

def optIn : Flow Bool := click "#onetrust-accept-btn-handler,.js-accept-cookies" false

def selfTest (timings : Timings) : Flow Bool :=
  eval timings "window.OnetrustActiveGroups.split(',').filter(s => s.length > 0).length <= 1"

end ConsentBanner.OneTrust

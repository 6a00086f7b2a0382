import ConsentBanner.Handler.Traits

/-!
# The Evidon banner

Where it has no button that refuses, its options are opened unseen and refused there.
-/

set_option autoImplicit false

namespace ConsentBanner.Evidon

open Primitive

def banner : String := "#_evidon_banner"

def overlays : List String := ["#evidon-prefdiag-overlay", "#evidon-prefdiag-background"]

def traits : Traits := .usual

def detect : Flow Bool := isPresent banner

def popup : Flow Bool := isVisible banner .any

def optOut (timings : Timings) : Flow Bool := do
  if ← click "#_evidon-decline-button" false then return true
  else
    let _ ← hide overlays .display
    let _ ← click "#_evidon-option-button" false
    let _ ← waitForElement timings "#evidon-prefdiag-overlay" 5000
    let _ ← click "#evidon-prefdiag-decline" false
    return true

def optIn : Flow Bool := click "#_evidon-accept-button" false

end ConsentBanner.Evidon

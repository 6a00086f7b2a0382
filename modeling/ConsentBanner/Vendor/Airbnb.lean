import ConsentBanner.Handler.Traits

/-!
# The airbnb banner

The settings are opened and toggles are clicked as long as one of them is on, since one click may flip
several of them.  How often is bounded.
-/

set_option autoImplicit false

namespace ConsentBanner.Airbnb

open Primitive

def banner : String := "div[data-testid=main-cookies-banner-container]"

def toggles : String :=
  "[data-testid=modal-container] button[aria-checked=true]:not([disabled])"

def clickLimit : Nat := 64

def traits : Traits :=
  { (Traits.toHide
      [banner,
       "div:has(> div:first-child):has(> div:last-child):has(> section " ++
         "[data-testid=\"strictly-necessary-cookies\"])"]).withSelfTest with
    context := RunContext.topFrameOnly.withUrlPattern "^https://(www\\.)?airbnb\\.[^/]+/" }

def detect : Flow Bool := isPresent banner

def popup : Flow Bool := isVisible banner .any

/-- Clicks the first toggle that is on as often as there is one, up to a number of clicks.  After the
last of these clicks it only looks once more. -/
def clickToggles : Nat → Flow Unit
  | 0 => do
    let _ ← query toggles
    pure ()
  | clicks + 1 => do
    match ← query toggles with
    | [] => pure ()
    | toggle :: _ =>
      let _ ← clickNodes [toggle] false
      clickToggles clicks

def optOut (timings : Timings) : Flow Bool := do
  let _ ← waitForThenClick timings (banner ++ " button._snbhip0") defaultStepTimeout false
  clickToggles clickLimit
  waitForThenClick timings "button[data-testid=save-btn]" defaultStepTimeout false

def optIn (timings : Timings) : Flow Bool :=
  waitForThenClick timings (banner ++ " button._148dgdpk") defaultStepTimeout false

def hasClosed : Flow Bool := do
  return Text.contains (← cookie) "OptanonAlertBoxClosed"

def selfTest : Flow Bool := Flow.poll hasClosed 200 20

end ConsentBanner.Airbnb

import ConsentBanner.Handler.Traits

/-!
# The Cookiebot dialog

There are several variants of it, which are tried in turn.  Where nothing can be clicked the choice
is submitted through page script.
-/

set_option autoImplicit false

namespace ConsentBanner.Cookiebot

open Primitive

def dialog : String := "#CybotCookiebotDialog,#dtcookie-container,#cookiebanner,#cb-cookiebanner"

def container : String := "#dtcookie-container"

def acceptSelected : String := "#CybotCookiebotDialogBodyButtonAcceptSelected"

def decline : String := "#CybotCookiebotDialogBodyButtonDecline"

def traits : Traits :=
  (Traits.toHide
    ["#CybotCookiebotDialog,#dtcookie-container,#cookiebanner,#cb-cookieoverlay"]).withSelfTest

def detect : Flow Bool := isPresent "#CybotCookiebotDialogBodyLevelButtonPreferences"

def popup : Flow Bool := isPresent dialog

/-- Keeps what is chosen. -/
def accept : Flow Bool := do
  if ← isPresent acceptSelected then click acceptSelected false
  else
    click
      ("#CybotCookiebotDialogBodyLevelButtonAccept,#CybotCookiebotDialogBodyButtonAccept," ++
        "#CybotCookiebotDialogBodyLevelButtonLevelOptinAllowallSelection") true

/-- Submits the choice through page script where it was not submitted yet. -/
def submit (timings : Timings) : Flow Unit := do
  if ← eval timings "window.CookieConsent.hasResponse !== true" then
    let _ ← eval timings "window.Cookiebot.dialog.submitConsent()"
    Flow.pause 500

def confirmSettings (timings : Timings) : Flow Unit := do
  if ← isPresent "#cb-confirmedSettings" then
    let _ ← eval timings "endCookieProcess()"

def refuseEach (timings : Timings) : Flow Bool := do
  let _ ← click ".cookiebanner__link--details" false
  let _ ← click
    (".CybotCookiebotDialogBodyLevelButton:checked:enabled," ++
      "input[id*=\"CybotCookiebotDialogBodyLevelButton\"]:checked:enabled") true
  let _ ← click decline false
  let _ ← click "input[id^=CybotCookiebotDialogBodyLevelButton]:checked" true
  let _ ← accept
  submit timings
  confirmSettings timings
  return true

def optOut (timings : Timings) : Flow Bool := do
  if ← click ".cookie-alert-extended-detail-link" false then
    let _ ← waitForElement timings ".cookie-alert-configuration" 2000
    let _ ← click ".cookie-alert-configuration-input:checked" true
    let _ ← click ".cookie-alert-extended-button-secondary" false
    return true
  else if ← isPresent container then click ".h-dtcookie-decline" false
  else if ← click ".cookiebot__button--settings" false then return true
  else if ← click decline false then return true
  else refuseEach timings

def optIn : Flow Bool := do
  if ← isPresent container then click ".h-dtcookie-accept" false
  else
    let _ ← click ".CybotCookiebotDialogBodyLevelButton:not(:checked):enabled" true
    let _ ← click "#CybotCookiebotDialogBodyLevelButtonAccept" false
    let _ ← click "#CybotCookiebotDialogBodyButtonAccept" false
    return true

def selfTest (timings : Timings) : Flow Bool :=
  eval timings "window.CookieConsent.declined === true"

end ConsentBanner.Cookiebot

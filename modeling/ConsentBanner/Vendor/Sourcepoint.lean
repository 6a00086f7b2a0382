import ConsentBanner.Handler.Traits
import ConsentBanner.Url.Basic

/-!
# The Sourcepoint frames

A message, a notice or a privacy manager, each in a frame of its own, told apart by the address of
the frame.  Opting out goes through the privacy manager, which offers one of three ways to refuse;
the one that comes up first is taken.
-/

set_option autoImplicit false

namespace ConsentBanner.Sourcepoint

open Primitive

def noticeHost : String := "ccpa-notice.sp-prod.net"

def managerHost : String := "ccpa-pm.sp-prod.net"

def managerPath : String := "/privacy-manager/index.html"

def messageParameters : List String := ["message_id", "requestUUID", "consentUUID"]

def rejectAll : String := ".sp_choice_type_REJECT_ALL"

def rejectToggle : String := ".reject-toggle"

def features : String := ".pm-features"

def traits : Traits :=
  { Traits.toHide
      ["div[id^='sp_message_container_'],.message-overlay", "#sp_privacy_manager_container"] with
    context := .subFrameOnly }

/-- What a frame with an address shows. -/
def surface? (url : Url) : Option Surface :=
  if url.host = noticeHost && url.hasParameter "message_id" then some .ccpaNotice
  else if url.host = managerHost then some .ccpaManager
  else if (url.path = "/index.html" || url.path = managerPath) &&
      messageParameters.any url.hasParameter then some .message
  else none

def detect (slot : Nat) : Flow Bool := do
  match (Url.read? (← url)).bind surface? with
  | some surface =>
    remember slot fun memory => { memory with surface := surface }
    return true
  | none => return false

def popup (timings : Timings) (slot : Nat) : Flow Bool := do
  match (← memoryOf slot).surface with
  | .ccpaNotice => return true
  | .ccpaManager => waitForElement timings ".priv-save-btn" 2000
  | .message =>
    let _ ← waitForElement timings
      ".sp_choice_type_11,.sp_choice_type_12,.sp_choice_type_13,.sp_choice_type_ACCEPT_ALL" 2000
    return !(← isPresent ".sp_choice_type_9")

def isManagerOpen : Flow Bool := do
  return (Url.read? (← url)).any fun url => url.path = managerPath

/-- Refuses in the older privacy manager. -/
def optOutOld : Flow Bool := do
  let _ ← click ".priv-purpose-container .sp-switch-arrow-block a.neutral.on .right" true
  let _ ← click ".priv-purpose-container .sp-switch-arrow-block a.switch-bg.on" true
  click ".priv-save-btn" false

/-- Ways to refuse in the privacy manager. -/
inductive Way where
  | all
  | toggle
  | features
  deriving DecidableEq, Repr

def Way.selector : Way → String
  | .all => rejectAll
  | .toggle => rejectToggle
  | .features => Sourcepoint.features

def probe (timings : Timings) (way : Way) : Flow (Option Way) := do
  return if ← waitForElement timings way.selector 2000 then some way else none

def firstWay (timings : Timings) : Flow (Option Way) :=
  Flow.anyOf (probe timings .all) [probe timings .toggle, probe timings .features]

def saveAndExit : Flow Bool := click ".sp_choice_type_SAVE_AND_EXIT" false

/-- Refuses in the privacy manager. -/
def refuse (timings : Timings) : Flow Bool := do
  let _ ← waitForElement timings ".type-modal" 20000
  match ← firstWay timings with
  | some .all =>
    Flow.pause 1000
    click rejectAll false
  | some .toggle =>
    let _ ← click rejectToggle false
    saveAndExit
  | some .features =>
    let _ ← waitForElement timings features 10000
    let _ ← click ".checked > span" true
    let _ ← click ".chevron" false
    saveAndExit
  | none => saveAndExit

/-- Goes from a message to the privacy manager and refuses there, unless the message has only the one
button that forbids the sale of data. -/
def optOutOfMessage (timings : Timings) : Flow Bool := do
  if ← waitForElement timings ".sp_choice_type_12,.sp_choice_type_13" defaultStepTimeout then
    if ← isPresent ".sp_choice_type_12" then
      let _ ← click ".sp_choice_type_12" false
      let _ ← Flow.poll isManagerOpen 100 200
      refuse timings
    else click ".sp_choice_type_13" false
  else return false

def optOut (timings : Timings) (slot : Nat) : Flow Bool := do
  if (← memoryOf slot).surface = .ccpaManager then optOutOld
  else if ← isManagerOpen then refuse timings
  else optOutOfMessage timings

def optIn (timings : Timings) : Flow Bool := do
  let _ ← waitForElement timings ".sp_choice_type_11,.sp_choice_type_ACCEPT_ALL" 2000
  if ← click ".sp_choice_type_11" false then return true
  else click ".sp_choice_type_ACCEPT_ALL" false

end ConsentBanner.Sourcepoint

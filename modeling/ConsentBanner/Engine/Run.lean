import ConsentBanner.Engine.Decision

/-!
# Running the engine

The engine announces itself, is told its configuration and rules, finds the dialogs of the page and
waits for them to show.  The first dialog that shows is acted upon; those that show later are only
reported.
-/

set_option autoImplicit false

namespace ConsentBanner.Engine

/-- Asks the host for configuration and rules. -/
def announce : Flow Unit := do
  Flow.send (.init (← Primitive.url))

/-- The dialog of a handler is showing.  The first one is kept. -/
def confirm (handler : Handler) (url : String) : Flow Unit := do
  update fun state => state.confirm handler
  Flow.send (.popupFound handler.name url)

def candidateLane (timings : Timings) (url : String) (handler : Handler) : Flow Bool := do
  if ← waitForPopup timings handler then
    confirm handler url
    return true
  else return false

/-- Does what is to be done once a dialog is confirmed. -/
def decide (timings : Timings) (action : AutoAction) : Flow Bool := do
  enter .deciding
  match action with
  | .optOut => execute timings .optOut
  | .optIn => execute timings .optIn
  | .doNothing =>
    enter .done
    return true

/-- There is nothing to act upon. -/
def giveUp (phase : Phase) : Flow Bool := do
  enter phase
  undoPrehide
  return false

/-- Finds the dialogs of the page and acts upon the first that shows; says whether that succeeded. -/
def start (timings : Timings) : Flow Bool := do
  let config := (← state).config
  enter .detecting
  let candidates ← findCandidates timings config.detectRetries
  if candidates.isEmpty then giveUp .noneFound
  else
    let url ← Primitive.url
    Flow.each (fun handler => Flow.send (.cmpDetected url handler.name)) candidates
    enter .confirming
    .race (candidates.map (candidateLane timings url)) false (decide timings config.autoAction)
      fun
        | none => giveUp .noPopup
        | some acted => pure acted

def isReady : Flow Bool := do
  return match ← Flow.page .readyState with
    | .ok state => state != "loading"
    | .error _ => true

/-- Waits until the page has loaded, but not for ever. -/
def waitUntilReady (timings : Timings) : Flow Unit := do
  let _ ← Flow.poll isReady timings.ready timings.readyRetries

/-- Takes configuration and rules and starts, unless the engine is switched off. -/
def setUp (timings : Timings) (config : EngineConfig) (rules : RuleSet) : Flow Bool := do
  update fun state => { state with config := config }
  if config.enabled then
    update fun state => (state.addRules rules).disable config.disabledCmps
    if config.enablePrehide then
      let _ ← prehide
    waitUntilReady timings
    start timings
  else
    enter .done
    return false

/-- Does what the host commands. -/
def receive (timings : Timings) : Inbound → Flow Unit
  | .initResponse config rules => do
    let _ ← setUp timings config rules
  | .optOut => do
    let _ ← execute timings .optOut
  | .optIn => do
    let _ ← execute timings .optIn
  | .selfTest => do
    let _ ← selfTest timings
  | .evalResponse id result => do
    let _ ← Flow.request (.resolve id result)

end ConsentBanner.Engine

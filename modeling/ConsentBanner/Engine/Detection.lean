import ConsentBanner.Handler.Run

/-!
# Finding the dialogs of a page

A detection pass asks every handler that may run on the page whether its platform is there.  Passes
are repeated until one finds something or no pass is left.
-/

set_option autoImplicit false

namespace ConsentBanner.Engine

def state : Flow EngineState := Flow.request .state

def update (change : EngineState → EngineState) : Flow Unit := Flow.request (.update change)

/-- The engine has come further. -/
def enter (phase : Phase) : Flow Unit := update fun state => { state with phase := phase }

/-- The handlers that may run on the page as it is. -/
def eligible : Flow (List Handler) := do
  let isTop ← Primitive.isTopFrame
  let url ← Primitive.url
  return (← state).handlers.filter fun handler => handler.allows isTop url

def chosen (handlers : List Handler) (answers : List Bool) : List Handler :=
  (handlers.zip answers).filterMap fun entry => if entry.2 then some entry.1 else none

/-- Asks all handlers that may run, side by side; a failure counts as no. -/
def detectionPass (timings : Timings) : Flow (List Handler) := do
  let handlers ← eligible
  let answers ← Flow.all (handlers.map fun handler => handler.attempt timings .detect)
  return chosen handlers answers

def reportConflict (found : List Handler) : Flow Unit :=
  match found with
  | _ :: _ :: _ => Flow.send (.detectionConflict (found.map Handler.name))
  | _ => pure ()

/-- The handlers whose platforms are there.  The number is that of the passes after the first. -/
def findCandidates (timings : Timings) : Nat → Flow (List Handler)
  | 0 => do
    let found ← detectionPass timings
    reportConflict found
    return found
  | retries + 1 => do
    let found ← detectionPass timings
    reportConflict found
    if found.isEmpty then
      Flow.pause timings.detect
      findCandidates timings retries
    else return found

/-- Waits for the dialog of a handler; says whether it came. -/
def waitForPopup (timings : Timings) (handler : Handler) : Flow Bool :=
  Flow.poll (handler.attempt timings .popup) timings.popup timings.popupRetries

end ConsentBanner.Engine

import ConsentBanner.Config
import ConsentBanner.Handler.Basic
import ConsentBanner.Rule.Set

/-!
# State of the engine

What the engine knows of a page: the handlers that take part, the one whose dialog was confirmed
first, the configuration and how far it has come.
-/

set_option autoImplicit false

namespace ConsentBanner

/-- How far the engine has come. -/
inductive Phase where
  | idle
  | detecting
  | noneFound
  | confirming
  | noPopup
  | deciding
  | executing
  | reporting
  | done
  deriving DecidableEq, Repr

def Phase.text : Phase → String
  | .idle => "Idle"
  | .detecting => "Detecting"
  | .noneFound => "NoneFound"
  | .confirming => "Confirming"
  | .noPopup => "NoPopup"
  | .deciding => "Deciding"
  | .executing => "Executing"
  | .reporting => "Reporting"
  | .done => "Done"

/-- What the engine knows. -/
structure EngineState where
  handlers : List Handler
  /-- The handler whose dialog was confirmed first. -/
  found : Option Handler
  config : EngineConfig
  phase : Phase
  /-- The slot of the next handler. -/
  nextSlot : Nat

namespace EngineState

def initial : EngineState := ⟨[], none, .initial, .idle, 0⟩

/-- Registers a handler behind the others. -/
def add (state : EngineState) (plan : Plan) : EngineState :=
  { state with
    handlers := state.handlers ++ [⟨state.nextSlot, plan⟩], nextSlot := state.nextSlot + 1 }

/-- Registers the handlers of a rule set: those with methods first.  Broken entries are passed
over. -/
def addRules (state : EngineState) (rules : RuleSet) : EngineState :=
  let decoded := rules.decodeRules
  let plans :=
    decoded.methodRules.map (fun entry => Plan.methods entry.1 entry.2) ++
      decoded.stepRules.map Plan.steps
  plans.foldl add state

def disable (state : EngineState) (names : List String) : EngineState :=
  { state with handlers := state.handlers.filter fun handler => !names.contains handler.name }

def confirm (state : EngineState) (handler : Handler) : EngineState :=
  match state.found with
  | none => { state with found := some handler }
  | some _ => state

def handlerNames (state : EngineState) : List String := state.handlers.map Handler.name

end EngineState

end ConsentBanner

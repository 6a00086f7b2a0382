import ConsentBanner.Json.Decode

/-!
# Configuration of the engine

What the host sends along with the rules: whether the engine acts at all, what it does on its own
once a dialog is confirmed, which handlers are left out, whether known dialogs are hidden at once,
and how often detection is tried again.
-/

set_option autoImplicit false

namespace ConsentBanner

open Json (Decoder Held DecodeError)
open Json.Decode

/-- What the engine does on its own once a dialog is confirmed. -/
inductive AutoAction where
  | optOut
  | optIn
  | doNothing
  deriving DecidableEq, Repr

namespace AutoAction

def text : AutoAction → String
  | .optOut => "optOut"
  | .optIn => "optIn"
  | .doNothing => "doNothing"

def decode : Decoder AutoAction :=
  constant [("optOut", .optOut), ("optIn", .optIn), ("doNothing", .doNothing), ("none", .doNothing)]

def encode (action : AutoAction) : Json := .string action.text

end AutoAction

/-- What the engine is told to do. -/
structure EngineConfig where
  enabled : Bool
  autoAction : AutoAction
  /-- Names of handlers that take no part. -/
  disabledCmps : List String
  enablePrehide : Bool
  /-- How many detection passes may follow the first. -/
  detectRetries : Nat
  deriving DecidableEq, Repr

namespace EngineConfig

def initial : EngineConfig := ⟨true, .doNothing, [], true, 20⟩

/-- A handler takes no part. -/
def isDisabled (config : EngineConfig) (name : String) : Bool := config.disabledCmps.contains name

/-- Every member has a default; the left-out handlers have a second name. -/
def decode : Decoder EngineConfig :=
  record "struct EngineConfig"
    (fun held given => do
      let action ← memberOr given "autoAction" initial.autoAction AutoAction.decode held
      let retries ← memberOr given "detectRetries" initial.detectRetries nat32 held
      let disabled ← member? given "disabledCmps" (list string) held
      let disabled ←
        memberAgain? disabled "disabledCmps" given "disabledNames" (list string) held
      let prehide ← memberOr given "enablePrehide" initial.enablePrehide bool held
      let enabled ← memberOr given "enabled" initial.enabled bool held
      return ⟨enabled, action, disabled.getD [], prehide, retries⟩)
    (fun held => do
      let enabled ← nextOr initial.enabled bool held
      let action ← nextOr initial.autoAction AutoAction.decode held
      let disabled ← nextOr [] (list string) held
      let prehide ← nextOr initial.enablePrehide bool held
      let retries ← nextOr initial.detectRetries nat32 held
      return ⟨enabled, action, disabled, prehide, retries⟩)

/-- The written form, with all members. -/
def encode (config : EngineConfig) : Json :=
  .object
    [("autoAction", config.autoAction.encode),
     ("detectRetries", .nat config.detectRetries),
     ("disabledCmps", .strings config.disabledCmps),
     ("enablePrehide", .bool config.enablePrehide),
     ("enabled", .bool config.enabled)]

end EngineConfig

end ConsentBanner

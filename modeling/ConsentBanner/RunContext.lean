import ConsentBanner.Json.Decode
import ConsentBanner.Pattern.Reader

/-!
# Where a handler may run

A run context admits top frames, nested frames or both, and may ask that the address of the page
match a pattern.  An empty pattern asks nothing; one that is not well formed admits no page.
-/

set_option autoImplicit false

namespace ConsentBanner

open Json (Decoder Held DecodeError)
open Json.Decode

/-- The frames and addresses in which a handler may run. -/
structure RunContext where
  topFrame : Bool
  subFrame : Bool
  urlPattern : Option String
  deriving DecidableEq, Repr

namespace RunContext

def topFrameOnly : RunContext := ⟨true, false, none⟩

def subFrameOnly : RunContext := ⟨false, true, none⟩

/-- Every frame with any address. -/
def anywhere : RunContext := ⟨true, true, none⟩

def withUrlPattern (context : RunContext) (pattern : String) : RunContext :=
  { context with urlPattern := some pattern }

/-- The pattern that addresses have to match, if one is asked for. -/
def pattern? (context : RunContext) : Option String :=
  match context.urlPattern with
  | some "" => none
  | other => other

/-- The pattern is absent, empty or well formed. -/
def isValid (context : RunContext) : Bool :=
  match context.pattern? with
  | none => true
  | some pattern => (Pattern.ofText? pattern).isSome

def allowsFrame (context : RunContext) (isTop : Bool) : Bool :=
  if isTop then context.topFrame else context.subFrame

/-- The address is admitted. -/
def allowsUrl (context : RunContext) (url : String) : Bool :=
  match context.pattern? with
  | none => true
  | some pattern =>
    match Pattern.ofText? pattern with
    | some p => p.occursIn url
    | none => false

def allows (context : RunContext) (isTop : Bool) (url : String) : Bool :=
  context.allowsFrame isTop && context.allowsUrl url

/-- The members are `main`, `frame` and `urlPattern`; the first two have longer second names. -/
def decode : Decoder RunContext :=
  record "struct RunContext"
    (fun held given => do
      let sub ← member? given "allowInSubFrame" bool held
      let top ← member? given "allowInTopFrame" bool held
      let sub ← memberAgain? sub "frame" given "frame" bool held
      let top ← memberAgain? top "main" given "main" bool held
      let pattern ← memberOr given "urlPattern" none (option string) held
      return ⟨top.getD true, sub.getD false, pattern⟩)
    (fun held => do
      let top ← nextOr true bool held
      let sub ← nextOr false bool held
      let pattern ← nextOr none (option string) held
      return ⟨top, sub, pattern⟩)

end RunContext

end ConsentBanner

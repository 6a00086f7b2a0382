import ConsentBanner.Error
import ConsentBanner.Flow.Basic
import ConsentBanner.Page.Hiding
import ConsentBanner.Timing

/-!
# What handlers do to a page

The steps that rules and vendors' plans are made of.  None of them fails: what cannot be found out
reads as nothing, as false or as the empty text.
-/

set_option autoImplicit false

namespace ConsentBanner.Primitive

/-- The value of a reply, or another one if the call failed. -/
def orElse {α : Type} (reply : Except PageError α) (otherwise : α) : α :=
  match reply with
  | .ok value => value
  | .error _ => otherwise

/-- The reply to a call, or another value if it failed. -/
def ask {α : Type} (call : PageCall α) (otherwise : α) : Flow α := do
  return orElse (← Flow.page call) otherwise

def url : Flow String := ask .location ""

/-- The page is in the top frame, as far as can be told. -/
def isTopFrame : Flow Bool := ask .isTopFrame true

def cookie : Flow String := ask .cookie ""

/-- The elements that a selector describes, where a lookup starts. -/
def queryIn (scope : Scope) (selector : String) : Flow (List NodeId) :=
  ask (.queryAll scope selector) []

def query (selector : String) : Flow (List NodeId) := queryIn .document selector

def isPresent (selector : String) : Flow Bool := do
  return !(← query selector).isEmpty

/-- An element can be seen. -/
def nodeVisible (node : NodeId) : Flow Bool := ask (.isVisible node) false

def textOf (node : NodeId) : Flow String := ask (.textContent node) ""

def isChecked (node : NodeId) : Flow Bool := ask (.isChecked node) false

/-- Which of some elements can be seen. -/
def visibilities : List NodeId → Flow (List Bool)
  | [] => pure []
  | node :: rest => do
    let visible ← nodeVisible node
    return visible :: (← visibilities rest)

/-- What visible and invisible elements together count as. -/
def judge (mode : VisibilityMode) (visible : List Bool) : Bool :=
  match mode with
  | .none => visible.all fun v => !v
  | .any => visible.any fun v => v
  | .all => !visible.isEmpty && visible.all fun v => v

def isVisible (selector : String) (mode : VisibilityMode) : Flow Bool := do
  return judge mode (← visibilities (← query selector))

def clickEach : List NodeId → Flow Unit
  | [] => pure ()
  | node :: rest => do
    let _ ← Flow.page (.click node)
    clickEach rest

/-- Clicks the first of some elements or all of them; says whether there were any. -/
def clickNodes (nodes : List NodeId) (all : Bool) : Flow Bool := do
  clickEach (if all then nodes else nodes.take 1)
  return !nodes.isEmpty

/-- Clicks the first element that a selector describes or all of them; says whether there were
any. -/
def click (selector : String) (all : Bool) : Flow Bool := do
  clickNodes (← query selector) all

/-- Adds a rule to a style element; says whether it hides anything. -/
def addRule (style : String) (selectors : List String) (method : HideMethod) : Flow Bool := do
  match ← Flow.page (.appendStyle style (Hiding.rule selectors method)) with
  | .ok () => return !selectors.isEmpty
  | .error _ => return false

def hide (selectors : List String) (method : HideMethod) : Flow Bool :=
  addRule Hiding.lastingStyle selectors method

/-- Hides elements until a decision was made. -/
def prehide (selectors : List String) : Flow Bool :=
  addRule Hiding.passingStyle selectors .opacity

/-- Shows again what was hidden until a decision was made; says whether anything was. -/
def undoPrehide : Flow Bool := ask (.removeStyle Hiding.passingStyle) false

/-- Waits for an element; says whether it came. -/
def waitForElement (timings : Timings) (selector : String) (limit : Nat) : Flow Bool :=
  Flow.poll (isPresent selector) timings.poll (timings.attemptsFor limit)

/-- Waits until elements can be seen; says whether they could. -/
def waitForVisible (timings : Timings) (selector : String) (limit : Nat) (mode : VisibilityMode) :
    Flow Bool :=
  Flow.poll (isVisible selector mode) timings.poll (timings.attemptsFor limit)

/-- Waits for an element and clicks, whether it came or not. -/
def waitForThenClick (timings : Timings) (selector : String) (limit : Nat) (all : Bool) :
    Flow Bool := do
  let _ ← waitForElement timings selector limit
  click selector all

/-- Lets some time pass. -/
def wait (time : Nat) : Flow Bool := do
  Flow.pause time
  return true

/-- Has page script evaluated by the host, which must answer in time. -/
def request (timings : Timings) (code : String) : Flow (Except ConsentError Json) := do
  let id ← Flow.request (.openEval code)
  let outcome ← Flow.within timings.eval (.await id .done)
  return match outcome with
    | some (some value) => .ok value
    | some none => .error (.plain .channel ("eval #" ++ id ++ " abandoned by responder"))
    | none => .error (.evalTimeout id)

/-- The value of page script; false if it cannot be had. -/
def evalValue (timings : Timings) (code : String) : Flow Json := do
  match ← request timings code with
  | .ok value => return value
  | .error _ => return .bool false

def eval (timings : Timings) (code : String) : Flow Bool := do
  return (← evalValue timings code).isTruthy

end ConsentBanner.Primitive

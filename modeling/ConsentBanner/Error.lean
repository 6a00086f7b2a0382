import ConsentBanner.Json.Decode
import ConsentBanner.Rule.Set

/-!
# Errors

`PageError` lists what can go wrong in a call to the page, `ConsentError` is the form in which every
failure is reported: a category, a wording, some context and whether trying again may help.
-/

set_option autoImplicit false

namespace ConsentBanner

open Json (Decoder Held DecodeError)
open Json.Decode

/-- What went wrong. -/
inductive ErrorCategory where
  /-- More than one handler claimed the page. -/
  | detection
  /-- No dialog showed up in time. -/
  | confirmation
  /-- Page script failed or did not answer. -/
  | evaluation
  /-- A required step failed. -/
  | step
  /-- Rule data cannot be interpreted. -/
  | malformedRule
  /-- The page failed. -/
  | dom
  /-- Nobody listens any more. -/
  | channel
  /-- The configuration cannot be used. -/
  | config
  deriving DecidableEq, Repr

namespace ErrorCategory

def all : List ErrorCategory :=
  [.detection, .confirmation, .evaluation, .step, .malformedRule, .dom, .channel, .config]

def text : ErrorCategory → String
  | .detection => "Detection"
  | .confirmation => "Confirmation"
  | .evaluation => "Evaluation"
  | .step => "Step"
  | .malformedRule => "MalformedRule"
  | .dom => "Dom"
  | .channel => "Channel"
  | .config => "Config"

def decode : Decoder ErrorCategory := constant (all.map fun c => (c.text, c))

def encode (category : ErrorCategory) : Json := .string category.text

end ErrorCategory

/-- Why a call to the page failed. -/
inductive PageError where
  | invalidSelector (selector : String)
  | nodeGone (node : Nat)
  | script (text : String)
  | backend (text : String)
  deriving DecidableEq, Repr

def PageError.message : PageError → String
  | .invalidSelector selector => "invalid selector `" ++ selector ++ "`"
  | .nodeGone node => "node " ++ toString node ++ " is no longer attached"
  | .script text => "script failed: " ++ text
  | .backend text => "document backend error: " ++ text

/-- Trying again may help: the page may change, or the connection may recover. -/
def PageError.isRecoverable : PageError → Bool
  | .nodeGone _ => true
  | .backend _ => true
  | _ => false

/-- Tells the cause of a failed call to a browser by the words of its report. -/
def PageError.ofReport (report action : String) : PageError :=
  if Text.contains report "SyntaxError" || Text.contains report "not a valid selector" then
    .invalidSelector (action ++ ": " ++ report)
  else if Text.contains report "Error" || Text.contains report "exception" then
    .script (action ++ ": " ++ report)
  else .backend (action ++ " failed: " ++ report)

/-- A failure as it is reported. -/
structure ConsentError where
  category : ErrorCategory
  message : String
  context : Json
  recoverable : Bool

namespace ConsentError

/-- A failure without context that is not expected to pass. -/
def plain (category : ErrorCategory) (message : String) : ConsentError :=
  ⟨category, message, .object [], false⟩

def withContext (error : ConsentError) (context : Json) : ConsentError :=
  { error with context := context }

/-- The failure as one that may pass. -/
def asRecoverable (error : ConsentError) : ConsentError := { error with recoverable := true }

/-- Several handlers claimed the page. -/
def detectionConflict (names : List String) : ConsentError :=
  (plain .detection "Found multiple CMPs, check the detection rules.").withContext
    (.object [("cmps", .strings names)])

/-- A request to page script was not answered in time. -/
def evalTimeout (id : String) : ConsentError :=
  ((plain .evaluation ("eval #" ++ id ++ " timed out")).withContext
    (.object [("id", .string id)])).asRecoverable

def stepFailed (message : String) : ConsentError := plain .step message

def ofPage (error : PageError) : ConsentError :=
  { plain .dom error.message with recoverable := error.isRecoverable }

def ofRule : RuleError → ConsentError
  | .decode name error =>
    plain .malformedRule ("rule `" ++ name ++ "` could not be decoded: " ++ error.message)
  | .urlPattern name =>
    plain .malformedRule ("rule `" ++ name ++ "` has an invalid url pattern")

/-- The failure on one line, its category first. -/
def display (error : ConsentError) : String :=
  "[" ++ error.category.text ++ "] " ++ error.message

def decode : Decoder ConsentError :=
  record "struct ConsentError"
    (fun held given => do
      let category ← member? given "category" ErrorCategory.decode held
      let context ← member? given "context" any held
      let message ← member? given "message" string held
      let recoverable ← member? given "recoverable" bool held
      let category ← required "category" category
      let message ← required "message" message
      return ⟨category, message, ← required "context" context,
        ← required "recoverable" recoverable⟩)
    (fun held => do
      let sized := "struct ConsentError with 4 elements"
      let category ← next sized ErrorCategory.decode held
      let message ← next sized string held
      let context ← next sized any held
      let recoverable ← next sized bool held
      return ⟨category, message, context, recoverable⟩)

def encode (error : ConsentError) : Json :=
  .object
    [("category", error.category.encode), ("context", error.context),
     ("message", .string error.message), ("recoverable", .bool error.recoverable)]

end ConsentError

end ConsentBanner

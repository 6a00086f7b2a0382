import ConsentBanner.Action.Run
import ConsentBanner.Rule.Config

/-!
# Running methods

What a method rule does.  A dialog is there when all matchers of one of the detectors match; a matcher
that fails only rules out its own detector.  To decide, the methods are run in a fixed order, and a
failure ends them.
-/

set_option autoImplicit false

namespace ConsentBanner

def allPresent : List PresenceMatcher → Flow Bool
  | [] => pure true
  | matcher :: rest => do
    match ← (Lookup.isPresent matcher .document).run with
    | .ok true => allPresent rest
    | _ => return false

/-- All matchers of one of the groups match.  An empty group does not count. -/
def anyGroupPresent : List (List PresenceMatcher) → Flow Bool
  | [] => pure false
  | [] :: rest => anyGroupPresent rest
  | group :: rest => do
    if ← allPresent group then return true else anyGroupPresent rest

namespace MethodRule

/-- The action of a method: that of the last entry with its name that has one. -/
def action? (rule : MethodRule) (name : String) : Option Action :=
  rule.methods.reverse.findSome? fun method => if method.name = name then method.action else none

/-- Runs a method.  A missing one does nothing. -/
def runMethod (timings : Timings) (rule : MethodRule) (name : String) (consents : List Category) :
    Deed Unit :=
  runAction? timings (rule.action? name) consents .document

/-- The dialog is there. -/
def detect (rule : MethodRule) : Flow Bool := anyGroupPresent (rule.detectors.map Detector.present)

def popup (rule : MethodRule) : Flow Bool := anyGroupPresent (rule.detectors.map Detector.showing)

def openSettings (timings : Timings) (rule : MethodRule) : Deed Bool := do
  rule.runMethod timings MethodName.hideCmp.text []
  rule.runMethod timings MethodName.openOptions.text []
  return true

/-- Allows some purposes and refuses all others. -/
def decide (timings : Timings) (rule : MethodRule) (consents : List Category) : Deed Bool := do
  rule.runMethod timings MethodName.hideCmp.text []
  rule.runMethod timings MethodName.openOptions.text []
  rule.runMethod timings MethodName.hideCmp.text []
  rule.runMethod timings MethodName.doConsent.text consents
  rule.runMethod timings MethodName.saveConsent.text []
  return true

/-- The purposes that can be decided one by one. -/
def categories (rule : MethodRule) : List Category :=
  match rule.action? MethodName.doConsent.text with
  | some action => action.categories
  | none => []

end MethodRule

end ConsentBanner

import ConsentBanner.Action
import ConsentBanner.Rule.Step
import ConsentBanner.RunContext

/-!
# Rules for consent dialogs

Two kinds of rule describe a dialog and how to drive it.  A step rule lists steps for each thing
that a handler does; a method rule has detectors, which say when the dialog is present and when it
is showing, and named methods in the action language.
-/

set_option autoImplicit false

namespace ConsentBanner

open Json (Decoder Held DecodeError)
open Json.Decode

structure StepRule where
  name : String
  prehideSelectors : List String
  runContext : RunContext
  /-- Whether success only dismisses a first layer. -/
  intermediate : Bool
  detectCmp : Option (List RuleStep)
  detectPopup : Option (List RuleStep)
  optOut : Option (List RuleStep)
  optIn : Option (List RuleStep)
  openCmp : Option (List RuleStep)
  test : Option (List RuleStep)

/-- When a dialog is present and when it is showing: all matchers of a list must match, and an empty
list never does. -/
structure Detector where
  present : List PresenceMatcher
  showing : List PresenceMatcher

/-- A named action; one without an action does nothing. -/
structure Method where
  name : String
  action : Option Action

structure MethodRule where
  detectors : List Detector
  methods : List Method

/-- The names of the methods that drive a dialog. -/
inductive MethodName where
  | hideCmp
  | openOptions
  | doConsent
  | saveConsent
  deriving DecidableEq, Repr

def MethodName.text : MethodName → String
  | .hideCmp => "HIDE_CMP"
  | .openOptions => "OPEN_OPTIONS"
  | .doConsent => "DO_CONSENT"
  | .saveConsent => "SAVE_CONSENT"

def StepRule.decode : Decoder StepRule :=
  let steps := option (list RuleStep.decode)
  record "struct RuleCmpConfig"
    (fun held given => do
      let detectCmp ← memberOr given "detectCmp" none steps held
      let detectPopup ← memberOr given "detectPopup" none steps held
      let intermediate ← memberOr given "intermediate" false bool held
      let name ← memberOr given "name" "" string held
      let openCmp ← memberOr given "openCmp" none steps held
      let optIn ← memberOr given "optIn" none steps held
      let optOut ← memberOr given "optOut" none steps held
      let prehideSelectors ← memberOr given "prehideSelectors" [] (list string) held
      let runContext ← memberOr given "runContext" .topFrameOnly RunContext.decode held
      let test ← memberOr given "test" none steps held
      return ⟨name, prehideSelectors, runContext, intermediate, detectCmp, detectPopup, optOut,
        optIn, openCmp, test⟩)
    (fun held => do
      let name ← nextOr "" string held
      let prehideSelectors ← nextOr [] (list string) held
      let runContext ← nextOr .topFrameOnly RunContext.decode held
      let intermediate ← nextOr false bool held
      let detectCmp ← nextOr none steps held
      let detectPopup ← nextOr none steps held
      let optOut ← nextOr none steps held
      let optIn ← nextOr none steps held
      let openCmp ← nextOr none steps held
      let test ← nextOr none steps held
      return ⟨name, prehideSelectors, runContext, intermediate, detectCmp, detectPopup, optOut,
        optIn, openCmp, test⟩)

def oneOrMany : Decoder (List PresenceMatcher) :=
  untagged "OneOrMany"
    [fun held value => (PresenceMatcher.decode held value).map fun matcher => [matcher],
     list PresenceMatcher.decode]

def Detector.decode : Decoder Detector :=
  record "struct Detector"
    (fun held given => do
      let present ← member? given "presentMatcher" oneOrMany held
      let showing ← member? given "showingMatcher" oneOrMany held
      return ⟨← required "presentMatcher" present, ← required "showingMatcher" showing⟩)
    (fun held => do
      let expected := "struct Detector with 2 elements"
      let present ← next expected oneOrMany held
      let showing ← next expected oneOrMany held
      return ⟨present, showing⟩)

def Method.decode : Decoder Method :=
  record "struct MethodConfig"
    (fun held given => do
      let action ← memberOr given "action" none (option Action.decode) held
      let name ← member? given "name" string held
      return ⟨← required "name" name, action⟩)
    (fun held => do
      let name ← next "struct MethodConfig with 2 elements" string held
      let action ← nextOr none (option Action.decode) held
      return ⟨name, action⟩)

def MethodRule.decode : Decoder MethodRule :=
  record "struct DeclarativeCmpConfig"
    (fun held given => do
      let detectors ← memberOr given "detectors" [] (list Detector.decode) held
      let methods ← memberOr given "methods" [] (list Method.decode) held
      return ⟨detectors, methods⟩)
    (fun held => do
      let detectors ← nextOr [] (list Detector.decode) held
      let methods ← nextOr [] (list Method.decode) held
      return ⟨detectors, methods⟩)

end ConsentBanner

import ConsentBanner.Json.Decode

/-!
# The rule-step language

A step carries any number of checks, which all run and must all hold, and at most one conditional.
`RuleStep.decode` reads the written form, an object with one member per kind of check; a member that
is empty or zero stands for no check.
-/

set_option autoImplicit false

namespace ConsentBanner

open Json (Decoder Held DecodeError)
open Json.Decode

/-- How visibility is judged where a selector matches several elements. -/
inductive VisibilityMode where
  | any
  | all
  | none
  deriving DecidableEq, Repr

/-- How elements are hidden. -/
inductive HideMethod where
  | display
  | opacity
  deriving DecidableEq, Repr

inductive StepCheck where
  | exists (selector : String)
  | visible (selector : String) (mode : VisibilityMode)
  | eval (code : String)
  | waitFor (selector : String) (timeout : Nat)
  | waitForVisible (selector : String) (timeout : Nat) (mode : VisibilityMode)
  | click (selector : String) (all : Bool)
  | waitForThenClick (selector : String) (timeout : Nat) (all : Bool)
  | wait (time : Nat)
  | hide (selectors : List String) (method : HideMethod)
  deriving DecidableEq, Repr

mutual

/-- Checks that run together, with a conditional beside them. -/
structure RuleStep where
  checks : List StepCheck
  conditional : Option Conditional
  /-- Whether a sequence goes on when the step fails. -/
  isOptional : Bool

/-- A test and the steps for either outcome. -/
structure Conditional where
  test : RuleStep
  thenSteps : List RuleStep
  elseSteps : Option (List RuleStep)

end

/-- How long a check waits unless it says otherwise, in milliseconds. -/
def defaultStepTimeout : Nat := 10000

def RuleStep.single (check : StepCheck) : RuleStep := ⟨[check], none, false⟩

def RuleStep.asOptional (step : RuleStep) : RuleStep := ⟨step.checks, step.conditional, true⟩

def StepCheck.isTest : StepCheck → Bool
  | .exists _ => true
  | .visible _ _ => true
  | _ => false

/-- A step can be the test of a conditional: one of its checks looks for an element. -/
def RuleStep.isValidCondition (step : RuleStep) : Bool := step.checks.any StepCheck.isTest

/-- The members of a step in its written form. -/
structure StepFields where
  existing : Option String
  visible : Option String
  check : Option VisibilityMode
  eval : Option String
  waitFor : Option String
  waitForVisible : Option String
  timeout : Option Nat
  click : Option String
  all : Bool
  waitForThenClick : Option String
  wait : Option Nat
  hide : Option (List String)
  method : Option HideMethod
  test : Option RuleStep
  thenSteps : Option (List RuleStep)
  elseSteps : Option (List RuleStep)
  isOptional : Bool

/-- A text member stands for a check unless it is absent or empty. -/
def checkOf (text : Option String) (check : String → StepCheck) : List StepCheck :=
  match text with
  | none => []
  | some text => if text = "" then [] else [check text]

/-- The checks that the members stand for, in the order in which they start. -/
def StepFields.checks (fields : StepFields) : List StepCheck :=
  let timeout := fields.timeout.getD defaultStepTimeout
  checkOf fields.existing .exists ++
  checkOf fields.visible (.visible · (fields.check.getD .all)) ++
  checkOf fields.eval .eval ++
  checkOf fields.waitFor (.waitFor · timeout) ++
  checkOf fields.waitForVisible (.waitForVisible · timeout (fields.check.getD .any)) ++
  checkOf fields.click (.click · fields.all) ++
  checkOf fields.waitForThenClick (.waitForThenClick · timeout fields.all) ++
  (match fields.wait with
    | some time => if time = 0 then [] else [.wait time]
    | none => []) ++
  (match fields.hide with
    | some selectors => [.hide selectors (fields.method.getD .display)]
    | none => [])

/-- The step that the members write. -/
def StepFields.step (fields : StepFields) : RuleStep :=
  { checks := fields.checks
    conditional := fields.test.map fun test =>
      { test := test
        thenSteps := fields.thenSteps.getD []
        elseSteps := fields.elseSteps }
    isOptional := fields.isOptional }

def VisibilityMode.decode : Decoder VisibilityMode :=
  constant [("any", .any), ("all", .all), ("none", .none)]

def HideMethod.decode : Decoder HideMethod :=
  constant [("display", .display), ("opacity", .opacity)]

/-- A step, decoded with a bound on its nesting. -/
def RuleStep.decodeWith : Nat → Decoder RuleStep
  | 0 => fun _ value => mismatch "struct RawRuleStep" value
  | fuel + 1 =>
    let text := option string
    let time := option nat64
    let steps := option (list (RuleStep.decodeWith fuel))
    record "struct RawRuleStep"
      (fun held given => do
        let all ← memberOr given "all" false bool held
        let check ← memberOr given "check" none (option VisibilityMode.decode) held
        let click ← memberOr given "click" none text held
        let elseSteps ← memberOr given "else" none steps held
        let eval ← memberOr given "eval" none text held
        let existing ← memberOr given "exists" none text held
        let hide ← memberOr given "hide" none (option (list string)) held
        let test ← memberOr given "if" none (option (RuleStep.decodeWith fuel)) held
        let method ← memberOr given "method" none (option HideMethod.decode) held
        let isOptional ← memberOr given "optional" false bool held
        let thenSteps ← memberOr given "then" none steps held
        let timeout ← memberOr given "timeout" none time held
        let visible ← memberOr given "visible" none text held
        let wait ← memberOr given "wait" none time held
        let waitFor ← memberOr given "waitFor" none text held
        let waitForThenClick ← memberOr given "waitForThenClick" none text held
        let waitForVisible ← memberOr given "waitForVisible" none text held
        return StepFields.step
          ⟨existing, visible, check, eval, waitFor, waitForVisible, timeout, click, all,
            waitForThenClick, wait, hide, method, test, thenSteps, elseSteps, isOptional⟩)
      (fun held => do
        let existing ← nextOr none text held
        let visible ← nextOr none text held
        let check ← nextOr none (option VisibilityMode.decode) held
        let eval ← nextOr none text held
        let waitFor ← nextOr none text held
        let waitForVisible ← nextOr none text held
        let timeout ← nextOr none time held
        let click ← nextOr none text held
        let all ← nextOr false bool held
        let waitForThenClick ← nextOr none text held
        let wait ← nextOr none time held
        let hide ← nextOr none (option (list string)) held
        let method ← nextOr none (option HideMethod.decode) held
        let test ← nextOr none (option (RuleStep.decodeWith fuel)) held
        let thenSteps ← nextOr none steps held
        let elseSteps ← nextOr none steps held
        let isOptional ← nextOr false bool held
        return StepFields.step
          ⟨existing, visible, check, eval, waitFor, waitForVisible, timeout, click, all,
            waitForThenClick, wait, hide, method, test, thenSteps, elseSteps, isOptional⟩)

def RuleStep.decode : Decoder RuleStep := fun held value =>
  RuleStep.decodeWith (value.height + 1) held value

end ConsentBanner

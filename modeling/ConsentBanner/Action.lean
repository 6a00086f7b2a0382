import ConsentBanner.Query
import ConsentBanner.Category

/-!
# The action language

An action is a tree: lists, branches, loops and consent choices over the things that can be done to
a page.  `Action.decode` reads the written form, in which the member `type` names the kind.
`Action.categories` sums up which purposes a tree can switch one by one.
-/

set_option autoImplicit false

namespace ConsentBanner

open Json (Decoder Held DecodeError)
open Json.Decode

/-- Along which axes a slider is moved. -/
inductive SlideAxis where
  | x
  | y
  | both
  deriving DecidableEq, Repr

mutual

/-- A tree of things to do on a page. -/
inductive Action where
  /-- Click the target, if there is one. -/
  | click (matcher : Matcher)
  /-- One action after the other. -/
  | list (actions : List Action)
  /-- Bring each purpose to the wanted state. -/
  | consent (consents : List ConsentRule)
  /-- Branch: the first action runs when the target is absent, the second when it is present. -/
  | ifCss (matcher : Matcher) (whenAbsent whenPresent : Option Action)
  /-- Wait for the target to appear, or to disappear when negated. -/
  | waitCss (matcher : Matcher) (retries : Option Nat) (waitTime : Option Nat) (negated : Bool)
  /-- Run the action inside every match. -/
  | forEach (matcher : Matcher) (action : Action)
  /-- Mark the target as hidden. -/
  | hide (matcher : Matcher)
  /-- Drag the target to where the second matcher points. -/
  | slide (matcher dragTarget : Matcher) (axis : SlideAxis)
  /-- Close the window. -/
  | close
  /-- Pause for a time in milliseconds. -/
  | wait (waitTime : Nat)
  /-- Run page script; an asynchronous one leaves its result behind for later. -/
  | evaluate (code : String) (isAsync : Bool) (timeout : Option Nat)

/-- How one purpose is brought to a wanted state: a toggle with a matcher that reads its present
state, or one action for each state.  A rule without a known purpose is never enabled. -/
structure ConsentRule where
  category : Option Category
  matcher : Option PresenceMatcher
  toggleAction : Option Action
  trueAction : Option Action
  falseAction : Option Action

end

def Action.kind : Action → String
  | .click _ => "click"
  | .list _ => "list"
  | .consent _ => "consent"
  | .ifCss _ _ _ => "ifcss"
  | .waitCss _ _ _ _ => "waitcss"
  | .forEach _ _ => "foreach"
  | .hide _ => "hide"
  | .slide _ _ _ => "slide"
  | .close => "close"
  | .wait _ => "wait"
  | .evaluate _ _ _ => "eval"

/-- Adds the purpose of a rule to those before it, unless it is unknown or there already. -/
def addCategory (known : List Category) (rule : ConsentRule) : List Category :=
  match rule.category with
  | none => known
  | some c => if known.contains c then known else known ++ [c]

def Action.consentRules : Action → List ConsentRule
  | .consent consents => consents
  | _ => []

def Action.directRules : Action → List ConsentRule
  | .list actions => actions.flatMap Action.consentRules
  | action => action.consentRules

/-- The purposes that the consent choices directly in an action can switch, each once, in order of
their first mention. -/
def Action.categories (action : Action) : List Category :=
  action.directRules.foldl addCategory []

/-- The tags of actions. -/
inductive ActionTag where
  | click | list | consent | ifCss | waitCss | forEach | hide | slide | close | wait | evaluate

/-- The axis: any word but those for one axis means both. -/
def SlideAxis.decode : Decoder SlideAxis :=
  variant fun name =>
    .ok (if name = "x" ∨ name = "X" then .x else if name = "y" ∨ name = "Y" then .y else .both)

/-- The tags in their order of declaration. -/
def ActionTag.variants : List (String × ActionTag) :=
  [("click", .click), ("list", .list), ("consent", .consent), ("ifcss", .ifCss),
   ("waitcss", .waitCss), ("foreach", .forEach), ("hide", .hide), ("slide", .slide),
   ("close", .close), ("wait", .wait), ("eval", .evaluate)]

/-- A purpose written as text; an unknown letter is none. -/
def knownCategory : Decoder (Option Category) := fun held value =>
  (string held value).map Category.ofCode?

/-- A pause. -/
def decodeWait : Decoder Action :=
  record "struct WaitAction"
    (fun held given => do return .wait (← memberOr given "waitTime" 0 nat64 held))
    (fun held => do return .wait (← nextOr 0 nat64 held))

/-- A run of page script. -/
def decodeEvaluate : Decoder Action :=
  record "struct EvalAction"
    (fun held given => do
      let isAsync ← memberOr given "async" false bool held
      let code ← member? given "code" string held
      let timeout ← memberOr given "timeout" none (option nat64) held
      return .evaluate (← required "code" code) isAsync timeout)
    (fun held => do
      let code ← next "struct EvalAction with 3 elements" string held
      let isAsync ← nextOr false bool held
      let timeout ← nextOr none (option nat64) held
      return .evaluate code isAsync timeout)

def decodeWaitCss : Decoder Action :=
  membersOnly "struct WaitCssAction" fun held given => do
    let negated ← memberOr given "negated" false bool held
    let retries ← memberOr given "retries" none (option nat32) held
    let waitTime ← memberOr given "waitTime" none (option nat64) held
    return .waitCss (← Matcher.ofMembers given) retries waitTime negated

def decodeSlide : Decoder Action :=
  membersOnly "struct SlideAction" fun held given => do
    let axis ← memberOr given "axis" .both SlideAxis.decode held
    let dragTarget ← member? given "dragTarget" Matcher.decode held
    let dragTarget ← required "dragTarget" dragTarget
    return .slide (← Matcher.ofMembers given) dragTarget axis

mutual

/-- An action, decoded with a bound on its nesting. -/
def Action.decodeWith : Nat → Decoder Action
  | 0 => fun _ value => mismatch "internally tagged enum ActionNode" value
  | fuel + 1 =>
    tagged "type" "ActionNode" ActionTag.variants fun tag content =>
      let optionalAction := option (Action.decodeWith fuel)
      match tag with
      | .click =>
        membersOnly "struct ClickAction"
          (fun _ given => do return .click (← Matcher.ofMembers given)) .back content
      | .list =>
        let actions := Json.Decode.list (Action.decodeWith fuel)
        record "struct ListAction"
          (fun held given => do return .list (← memberOr given "actions" [] actions held))
          (fun held => do return .list (← nextOr [] actions held)) .back content
      | .consent =>
        let consents := Json.Decode.list (ConsentRule.decodeWith fuel)
        record "struct ConsentAction"
          (fun held given => do return .consent (← memberOr given "consents" [] consents held))
          (fun held => do return .consent (← nextOr [] consents held)) .back content
      | .ifCss =>
        membersOnly "struct IfCssAction"
          (fun held given => do
            let falseAction ← memberOr given "falseAction" none optionalAction held
            let trueAction ← memberOr given "trueAction" none optionalAction held
            return .ifCss (← Matcher.ofMembers given) trueAction falseAction) .back content
      | .waitCss => decodeWaitCss .back content
      | .forEach =>
        membersOnly "struct ForEachAction"
          (fun held given => do
            let action ← member? given "action" (Action.decodeWith fuel) held
            let action ← required "action" action
            return .forEach (← Matcher.ofMembers given) action) .back content
      | .hide =>
        membersOnly "struct HideAction"
          (fun _ given => do return .hide (← Matcher.ofMembers given)) .back content
      | .slide => decodeSlide .back content
      | .close => (noContent content).map fun _ => .close
      | .wait => decodeWait .back content
      | .evaluate => decodeEvaluate .back content

/-- A consent rule, decoded with a bound on the nesting of its actions. -/
def ConsentRule.decodeWith : Nat → Decoder ConsentRule
  | 0 => fun _ value => mismatch "struct ConsentRule" value
  | fuel + 1 =>
    let optionalAction := option (Action.decodeWith fuel)
    let optionalMatcher := option PresenceMatcher.decode
    record "struct ConsentRule"
      (fun held given => do
        let falseAction ← memberOr given "falseAction" none optionalAction held
        let matcher ← memberOr given "matcher" none optionalMatcher held
        let toggleAction ← memberOr given "toggleAction" none optionalAction held
        let trueAction ← memberOr given "trueAction" none optionalAction held
        let category ← member? given "type" knownCategory held
        return ⟨← required "type" category, matcher, toggleAction, trueAction, falseAction⟩)
      (fun held => do
        let category ← next "struct ConsentRule with 5 elements" knownCategory held
        let matcher ← nextOr none optionalMatcher held
        let toggleAction ← nextOr none optionalAction held
        let trueAction ← nextOr none optionalAction held
        let falseAction ← nextOr none optionalAction held
        return ⟨category, matcher, toggleAction, trueAction, falseAction⟩)

end

def Action.decode : Decoder Action := fun held value =>
  Action.decodeWith (value.height + 1) held value

def ConsentRule.decode : Decoder ConsentRule := fun held value =>
  ConsentRule.decodeWith (value.height + 1) held value

end ConsentBanner

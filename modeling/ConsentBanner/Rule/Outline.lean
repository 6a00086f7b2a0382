import ConsentBanner.Rule.Config

/-!
# Outlines of rules

An outline writes every part of a rule, also what its data left out and a default stands for, so that
two rules can be told apart by sight.  Parts that are not there are null.
-/

set_option autoImplicit false

namespace ConsentBanner

/-- A value, or null. -/
def Json.ofOption {α : Type} (write : α → Json) : Option α → Json
  | some a => write a
  | none => .null

def TextFilter.outline : TextFilter → Json
  | .one needle => .string needle
  | .anyOf needles => .strings needles

def StyleFilter.outline (filter : StyleFilter) : Json :=
  Json.ofMembers [("property", .string filter.property), ("value", .string filter.value),
    ("negated", .bool filter.negated)]

mutual

def ElementQuery.outline : ElementQuery → Json
  | ⟨selector, text, styles, display, iframe, child⟩ =>
    Json.ofMembers [("selector", .string selector), ("textFilter", Json.ofOption TextFilter.outline text),
      ("styleFilters", .array (styles.map StyleFilter.outline)),
      ("displayFilter", Json.ofOption Json.bool display), ("iframeFilter", Json.ofOption Json.bool iframe),
      ("childFilter", match child with
        | none => .null
        | some matcher => Matcher.outline matcher)]

def Matcher.outline : Matcher → Json
  | ⟨target, parent⟩ =>
    Json.ofMembers [("target", ElementQuery.outline target),
      ("parent", match parent with
        | none => .null
        | some query => ElementQuery.outline query)]

end

def Presence.outline : Presence → Json
  | .css => .string "Css"
  | .checkbox => .string "Checkbox"

def PresenceMatcher.outline (matcher : PresenceMatcher) : Json :=
  Json.ofMembers [("kind", Presence.outline matcher.kind), ("matcher", Matcher.outline matcher.matcher)]

def SlideAxis.outline : SlideAxis → Json
  | .x => .string "X"
  | .y => .string "Y"
  | .both => .string "Both"

mutual

def Action.outline (action : Action) : Json :=
  let kind := ("kind", .string action.kind)
  match action with
  | .click matcher => Json.ofMembers [kind, ("matcher", Matcher.outline matcher)]
  | .list actions => Json.ofMembers [kind, ("actions", .array (actionOutlines actions))]
  | .consent rules => Json.ofMembers [kind, ("consents", .array (consentRuleOutlines rules))]
  | .ifCss matcher whenAbsent whenPresent =>
    Json.ofMembers [kind, ("matcher", Matcher.outline matcher), ("trueAction", actionOutline? whenAbsent),
      ("falseAction", actionOutline? whenPresent)]
  | .waitCss matcher retries waitTime negated =>
    Json.ofMembers [kind, ("matcher", Matcher.outline matcher), ("retries", Json.ofOption Json.nat retries),
      ("waitTime", Json.ofOption Json.nat waitTime), ("negated", .bool negated)]
  | .forEach matcher body =>
    Json.ofMembers [kind, ("matcher", Matcher.outline matcher), ("action", Action.outline body)]
  | .hide matcher => Json.ofMembers [kind, ("matcher", Matcher.outline matcher)]
  | .slide matcher target axis =>
    Json.ofMembers [kind, ("matcher", Matcher.outline matcher), ("dragTarget", Matcher.outline target),
      ("axis", SlideAxis.outline axis)]
  | .close => Json.ofMembers [kind]
  | .wait time => Json.ofMembers [kind, ("waitTime", .nat time)]
  | .evaluate code isAsync timeout =>
    Json.ofMembers [kind, ("code", .string code), ("async", .bool isAsync),
      ("timeout", Json.ofOption Json.nat timeout)]

def actionOutline? : Option Action → Json
  | none => .null
  | some action => Action.outline action

def actionOutlines : List Action → List Json
  | [] => []
  | action :: rest => Action.outline action :: actionOutlines rest

def ConsentRule.outline : ConsentRule → Json
  | ⟨category, matcher, toggle, whenTrue, whenFalse⟩ =>
    Json.ofMembers [("category", Json.ofOption (fun c : Category => .string c.code) category),
      ("matcher", Json.ofOption PresenceMatcher.outline matcher), ("toggleAction", actionOutline? toggle),
      ("trueAction", actionOutline? whenTrue), ("falseAction", actionOutline? whenFalse)]

def consentRuleOutlines : List ConsentRule → List Json
  | [] => []
  | rule :: rest => ConsentRule.outline rule :: consentRuleOutlines rest

end

def Detector.outline (detector : Detector) : Json :=
  Json.ofMembers [("present", .array (detector.present.map PresenceMatcher.outline)),
    ("showing", .array (detector.showing.map PresenceMatcher.outline))]

def MethodRule.outline (rule : MethodRule) : Json :=
  Json.ofMembers [("detectors", .array (rule.detectors.map Detector.outline)),
    ("methods", .array (rule.methods.map fun method =>
      Json.ofMembers [("name", .string method.name), ("action", actionOutline? method.action)]))]

def RunContext.outline (context : RunContext) : Json :=
  Json.ofMembers [("top", .bool context.topFrame), ("sub", .bool context.subFrame),
    ("urlPattern", Json.ofOption Json.string context.urlPattern)]

def VisibilityMode.outline : VisibilityMode → Json
  | .any => .string "Any"
  | .all => .string "All"
  | .none => .string "None"

def HideMethod.outline : HideMethod → Json
  | .display => .string "Display"
  | .opacity => .string "Opacity"

def StepCheck.outline : StepCheck → Json
  | .exists selector => Json.ofMembers [("kind", .string "exists"), ("selector", .string selector)]
  | .visible selector mode =>
    Json.ofMembers [("kind", .string "visible"), ("selector", .string selector), ("mode", VisibilityMode.outline mode)]
  | .eval code => Json.ofMembers [("kind", .string "eval"), ("code", .string code)]
  | .waitFor selector timeout =>
    Json.ofMembers [("kind", .string "waitFor"), ("selector", .string selector), ("timeout", .nat timeout)]
  | .waitForVisible selector timeout mode =>
    Json.ofMembers [("kind", .string "waitForVisible"), ("selector", .string selector),
      ("timeout", .nat timeout), ("mode", VisibilityMode.outline mode)]
  | .click selector all =>
    Json.ofMembers [("kind", .string "click"), ("selector", .string selector), ("all", .bool all)]
  | .waitForThenClick selector timeout all =>
    Json.ofMembers [("kind", .string "waitForThenClick"), ("selector", .string selector),
      ("timeout", .nat timeout), ("all", .bool all)]
  | .wait time => Json.ofMembers [("kind", .string "wait"), ("ms", .nat time)]
  | .hide selectors method =>
    Json.ofMembers [("kind", .string "hide"), ("selectors", .strings selectors),
      ("method", HideMethod.outline method)]

mutual

def RuleStep.outline (step : RuleStep) : Json :=
  match step with
  | ⟨checks, conditional, isOptional⟩ =>
    Json.ofMembers [("checks", .array (checks.map StepCheck.outline)), ("optional", .bool isOptional),
      ("validCondition", .bool (RuleStep.isValidCondition ⟨checks, none, false⟩)),
      ("if", match conditional with
        | none => .null
        | some conditional => Conditional.outline conditional)]

def Conditional.outline : Conditional → Json
  | ⟨test, thenSteps, elseSteps⟩ =>
    Json.ofMembers [("test", RuleStep.outline test), ("then", .array (stepOutlines thenSteps)),
      ("else", match elseSteps with
        | none => .null
        | some steps => .array (stepOutlines steps))]

def stepOutlines : List RuleStep → List Json
  | [] => []
  | step :: rest => RuleStep.outline step :: stepOutlines rest

end

def StepRule.outline (rule : StepRule) : Json :=
  let steps (list : Option (List RuleStep)) : Json := Json.ofOption (fun l => .array (stepOutlines l)) list
  Json.ofMembers [("name", .string rule.name), ("prehideSelectors", .strings rule.prehideSelectors),
    ("runContext", RunContext.outline rule.runContext), ("intermediate", .bool rule.intermediate),
    ("detectCmp", steps rule.detectCmp), ("detectPopup", steps rule.detectPopup),
    ("optOut", steps rule.optOut), ("optIn", steps rule.optIn), ("openCmp", steps rule.openCmp),
    ("test", steps rule.test)]

end ConsentBanner

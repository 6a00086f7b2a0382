import ConsentBanner.Proofs.Flow.Confined
import ConsentBanner.Proofs.Page.Styles
import ConsentBanner.Handler.Traits
import ConsentBanner.Rule.Methods
import ConsentBanner.Rule.Run

/-!
# Modest flows

What handlers do is modest: it never looks at the state of the engine or touches it, sends no messages but
requests for page script, which it does not answer itself, leaves alone what the engine hides for the time being,
and ends by itself as time passes.  Here for the primitives, for lookups, actions and steps, none of which
changes what a handler remembers: they stay within every allowance that leaves room for the rest.
-/

set_option autoImplicit false

namespace ConsentBanner

/-- Requests that handlers may make. -/
def Request.IsModest : {β : Type} → Request β → Prop
  | _, .send _ | _, .state | _, .update _ | _, .resolve _ _ | _, .record _ | _, .note _ => False
  | _, .page call => call.Spares Hiding.passingStyle
  | _, _ => True

/-- Requests that handlers may make while they follow a routine: a script is told which call it is. -/
def Request.Fits (routine : Routine) : {β : Type} → Request β → Prop
  | _, .note call => call.routine = routine
  | _, request => request.IsModest

theorem Request.IsModest.fits {β : Type} {request : Request β} (modest : request.IsModest)
    (routine : Routine) : request.Fits routine := by
  cases request with
  | note call => cases modest
  | _ => exact modest

/-- Requests that handlers may make while they follow a routine in which they learn nothing. -/
def Request.FitsIdly (routine : Routine) : {β : Type} → Request β → Prop
  | _, .remember _ _ => False
  | _, request => request.Fits routine

theorem Request.FitsIdly.fits {β : Type} {request : Request β} {routine : Routine}
    (idly : request.FitsIdly routine) : request.Fits routine := by
  cases request with
  | remember _ _ => cases idly
  | _ => exact idly

/-- Everything is allowed that handlers do apart from what they remember. -/
class Allowance.Open (may : Allowance) : Prop where
  page : ∀ {α : Type} (call : PageCall α), call.Spares Hiding.passingStyle → may (.page call)
  asks : ∀ code, may (.openEval code)

/-- Everything is allowed that handlers do, but for changing what they remember. -/
class Allowance.Roomy (may : Allowance) : Prop extends may.Open where
  recalls : ∀ slot, may (.memory slot)

instance : Allowance.Roomy Request.IsModest where
  page _ spares := spares
  asks _ := trivial
  recalls _ := trivial

instance (routine : Routine) : Allowance.Roomy (Request.FitsIdly routine) where
  page _ spares := spares
  asks _ := trivial
  recalls _ := trivial

namespace Flow

theorem Confined.ask {may : Allowance} {alone : Bool} {α : Type} {call : PageCall α} (allowed : may (.page call))
    (otherwise : α) : (Primitive.ask call otherwise).Confined may alone :=
  .andThen (.request allowed trivial) fun _ => .pure _

theorem Confined.addRule {may : Allowance} {alone : Bool} {style : String} {selectors : List String}
    {method : HideMethod} (allowed : may (.page (.appendStyle style (Hiding.rule selectors method)))) :
    (Primitive.addRule style selectors method).Confined may alone := by
  refine .andThen (.request allowed trivial) fun reply => ?_
  cases reply <;> exact .pure _

/-- A flow that handlers may run. -/
abbrev Modest {α : Type} (flow : Flow α) : Prop := flow.Confined Request.IsModest true

theorem Modest.fits {α : Type} {flow : Flow α} (modest : flow.Modest) (routine : Routine) :
    flow.Confined (Request.Fits routine) true :=
  (modest.weaken fun _ allowed => allowed.fits routine).1

namespace Modest

open Primitive

variable {α β ε : Type} {may : Allowance} [may.Open] (timings : Timings)

/-- A call that leaves alone what is hidden for the time being. -/
theorem page (call : PageCall α) (spares : call.Spares Hiding.passingStyle) : (Flow.page call).Confined may true :=
  .request (Allowance.Open.page call spares) trivial

theorem ask (call : PageCall α) (spares : call.Spares Hiding.passingStyle) (otherwise : α) :
    (Primitive.ask call otherwise).Confined may true := .ask (Allowance.Open.page call spares) otherwise

omit [may.Open] in
theorem recollect [may.Roomy] (slot : Nat) : (memoryOf slot).Confined may true :=
  .request (Allowance.Roomy.recalls slot) trivial

theorem memorize (slot : Nat) (change : Memory → Memory) :
    (remember slot change).Modest := .request trivial trivial

theorem url : Primitive.url.Confined may true := ask .location trivial ""

theorem isTopFrame : Primitive.isTopFrame.Confined may true := ask .isTopFrame trivial true

theorem cookie : Primitive.cookie.Confined may true := ask .cookie trivial ""

theorem queryIn (scope : Scope) (selector : String) : (Primitive.queryIn scope selector).Confined may true :=
  ask (.queryAll scope selector) trivial []

theorem query (selector : String) : (Primitive.query selector).Confined may true := queryIn .document selector

theorem nodeVisible (node : NodeId) : (Primitive.nodeVisible node).Confined may true :=
  ask (.isVisible node) trivial false

theorem textOf (node : NodeId) : (Primitive.textOf node).Confined may true := ask (.textContent node) trivial ""

theorem isChecked (node : NodeId) : (Primitive.isChecked node).Confined may true := ask (.isChecked node) trivial false

theorem isPresent (selector : String) : (Primitive.isPresent selector).Confined may true :=
  .andThen (query _) fun _ => .pure _

theorem visibilities (nodes : List NodeId) : (Primitive.visibilities nodes).Confined may true := by
  induction nodes with
  | nil => exact .pure _
  | cons node rest ih => exact .andThen (nodeVisible node) fun _ => .andThen ih fun _ => .pure _

theorem isVisible (selector : String) (mode : VisibilityMode) :
    (Primitive.isVisible selector mode).Confined may true :=
  .andThen (query _) fun nodes => .andThen (visibilities nodes) fun _ => .pure _

theorem clickEach (nodes : List NodeId) : (Primitive.clickEach nodes).Confined may true := by
  induction nodes with
  | nil => exact .pure _
  | cons node rest ih => exact .andThen (page _ trivial) fun _ => ih

theorem clickNodes (nodes : List NodeId) (all : Bool) : (Primitive.clickNodes nodes all).Confined may true :=
  .andThen (clickEach _) fun _ => .pure _

theorem click (selector : String) (all : Bool) : (Primitive.click selector all).Confined may true :=
  .andThen (query _) fun nodes => clickNodes nodes all

theorem hide (selectors : List String) (method : HideMethod) : (Primitive.hide selectors method).Confined may true := by
  have apart : Hiding.lastingStyle ≠ Hiding.passingStyle := by decide
  exact .addRule (Allowance.Open.page _ apart)

theorem waitForElement (selector : String) (limit : Nat) :
    (Primitive.waitForElement timings selector limit).Confined may true := .poll _ (isPresent _) _

theorem waitForVisible (selector : String) (limit : Nat) (mode : VisibilityMode) :
    (Primitive.waitForVisible timings selector limit mode).Confined may true := .poll _ (isVisible _ _) _

theorem waitForThenClick (selector : String) (limit : Nat) (all : Bool) :
    (Primitive.waitForThenClick timings selector limit all).Confined may true :=
  .andThen (waitForElement _ _ _) fun _ => click _ _

omit [may.Open] in
theorem wait (time : Nat) : (Primitive.wait time).Confined may true := .andThen (.pause _) fun _ => .pure _

/-- A request for page script ends at its deadline if nobody answers. -/
theorem request (code : String) : (Primitive.request timings code).Confined may true := by
  have waits : ∀ id, ((Flow.await id .done).within timings.eval).Confined may true := fun _ =>
    .within _ ⟨rfl, fun _ => trivial⟩
  refine ⟨⟨Allowance.Open.asks code, fun _ => List.mem_cons_self⟩, fun id => ?_⟩
  exact .andThen (.done id) fun id => .andThen (waits id) fun _ => .pure _

theorem evalValue (code : String) : (Primitive.evalValue timings code).Confined may true := by
  refine .andThen (request timings code) fun outcome => ?_
  cases outcome <;> exact .pure _

theorem eval (code : String) : (Primitive.eval timings code).Confined may true :=
  .andThen (evalValue _ _) fun _ => .pure _

/-! ## Flows that may fail -/

theorem okay {may : Allowance} {alone : Bool} (a : α) :
    (Pure.pure a : ExceptT ε Flow α).run.Confined may alone := .done _

theorem fail {may : Allowance} {alone : Bool} (error : ε) :
    (throw error : ExceptT ε Flow α).run.Confined may alone := .done _

theorem chain {may : Allowance} {alone : Bool} {flow : ExceptT ε Flow α} {f : α → ExceptT ε Flow β}
    (first : flow.run.Confined may alone) (onward : ∀ a, (f a).run.Confined may alone) :
    (flow >>= f).run.Confined may alone := by
  refine .bind (fun outcome => ?_) first
  cases outcome with
  | ok a => exact onward a
  | error _ => exact .pure _

theorem lift {may : Allowance} {alone : Bool} {flow : Flow α} (confined : flow.Confined may alone) :
    (ExceptT.lift flow : ExceptT ε Flow α).run.Confined may alone :=
  .bind (fun _ => .done _) confined

/-! ## Lookups -/

theorem call (call : PageCall α) (spares : call.Spares Hiding.passingStyle) :
    (Lookup.call call).run.Confined may true :=
  page call spares

omit [may.Open] in
theorem keep {condition : NodeId → Lookup Bool} (modest : ∀ node, (condition node).run.Confined may true)
    (nodes : List NodeId) : (Lookup.keep condition nodes).run.Confined may true := by
  induction nodes with
  | nil => exact okay _
  | cons node rest ih => exact chain (modest node) fun _ => chain ih fun _ => okay _

theorem passesStyles (node : NodeId) (filters : List StyleFilter) :
    (Lookup.passesStyles node filters).run.Confined may true := by
  induction filters with
  | nil => exact okay _
  | cons filter rest ih =>
      refine chain (call _ trivial) fun actual => ?_
      split
      · exact ih
      · exact okay _

theorem keepText (filter : Option TextFilter) (nodes : List NodeId) :
    (Lookup.keepText filter nodes).run.Confined may true := by
  cases filter with
  | none => exact okay _
  | some filter => exact keep (fun node => chain (call (.textContent node) trivial) fun _ => okay _) nodes

theorem keepStyled (filters : List StyleFilter) (nodes : List NodeId) :
    (Lookup.keepStyled filters nodes).run.Confined may true := by
  unfold Lookup.keepStyled
  split
  · exact okay _
  · exact keep (fun node => passesStyles node filters) nodes

theorem keepDisplayed (wanted : Option Bool) (nodes : List NodeId) :
    (Lookup.keepDisplayed wanted nodes).run.Confined may true := by
  cases wanted with
  | none => exact okay _
  | some wanted => exact keep (fun node => chain (call (.offsetHeight node) trivial) fun _ => okay _) nodes

theorem keepFramed (wanted : Option Bool) (nodes : List NodeId) :
    (Lookup.keepFramed wanted nodes).run.Confined may true := by
  cases wanted with
  | none => exact okay _
  | some wanted => exact chain (call _ trivial) fun _ => okay _

set_option linter.unusedSectionVars false in
mutual

theorem findElements : ∀ (query : ElementQuery) (scope : Scope),
    (Lookup.findElements query scope).run.Confined may true
  | ⟨_, text, styles, display, iframe, none⟩, _ =>
      chain (call _ trivial) fun _ => chain (keepText text _) fun _ => chain (keepStyled styles _) fun _ =>
        chain (keepDisplayed display _) fun _ => chain (keepFramed iframe _) fun _ => okay _
  | ⟨_, text, styles, display, iframe, some matcher⟩, _ =>
      chain (call _ trivial) fun _ => chain (keepText text _) fun _ => chain (keepStyled styles _) fun _ =>
        chain (keepDisplayed display _) fun _ => chain (keepFramed iframe _) fun nodes =>
          keep (fun node => chain (find matcher (.node node)) fun _ => okay _) nodes

theorem find : ∀ (matcher : Matcher) (scope : Scope), (Lookup.find matcher scope).run.Confined may true
  | ⟨target, none⟩, scope => chain (findElements target scope) fun _ => okay _
  | ⟨target, some parent⟩, scope => chain (findElements parent scope) fun
      | [] => okay _
      | node :: _ => chain (findElements target (.node node)) fun _ => okay _

end

theorem findInEach (target : ElementQuery) (parents : List NodeId) :
    (Lookup.findInEach target parents).run.Confined may true := by
  induction parents with
  | nil => exact okay _
  | cons parent rest ih => exact chain (findElements _ _) fun _ => chain ih fun _ => okay _

theorem findAll (matcher : Matcher) (scope : Scope) : (Lookup.findAll matcher scope).run.Confined may true := by
  unfold Lookup.findAll
  split
  · exact chain (findElements _ _) fun _ => okay _
  · exact chain (findElements _ _) fun _ => findInEach _ _

theorem isMatched (matcher : PresenceMatcher) (scope : Scope) :
    (Lookup.isPresent matcher scope).run.Confined may true := by
  refine chain (find _ _) fun found => ?_
  split
  · exact okay _
  · exact okay _
  · exact call _ trivial

/-! ## Actions -/

omit [may.Open] in
theorem look {lookup : Lookup α} (modest : lookup.run.Confined may true) : (Deed.look lookup).run.Confined may true :=
  .bind (fun _ => .done _) modest

theorem deed (call : PageCall α) (spares : call.Spares Hiding.passingStyle) : (Deed.call call).run.Confined may true :=
  look (page call spares)

omit [may.Open] in
theorem rest (time : Nat) : (Deed.pause time).run.Confined may true := lift (.pause time)

theorem runClick (matcher : Matcher) (scope : Scope) :
    (ConsentBanner.runClick timings matcher scope).run.Confined may true := by
  refine chain (look (find _ _)) fun found => ?_
  split
  · exact chain (deed _ trivial) fun _ => rest _
  · exact rest _

theorem runHide (matcher : Matcher) (scope : Scope) :
    (ConsentBanner.runHide matcher scope).run.Confined may true := by
  refine chain (look (find _ _)) fun found => ?_
  split
  · exact deed _ trivial
  · exact okay _

theorem runWaitCss (matcher : Matcher) (retries waitTime : Option Nat) (negated : Bool)
    (scope : Scope) :
    (ConsentBanner.runWaitCss timings matcher retries waitTime negated scope).Confined may true := by
  refine .andThen (.poll _ (.andThen (find _ _) fun outcome => ?_) _) fun _ => .pure _
  cases outcome <;> exact .pure _

theorem runSlide (matcher dragTarget : Matcher) (axis : SlideAxis) (scope : Scope) :
    (ConsentBanner.runSlide timings matcher dragTarget axis scope).run.Confined may true := by
  refine chain (look (find _ _)) fun found => ?_
  split
  · exact okay _
  · refine chain (look (find _ _)) fun goal => ?_
    split
    · exact okay _
    · exact chain (deed _ trivial) fun _ => chain (deed _ trivial) fun _ => chain (deed _ trivial) fun _ =>
        chain (rest _) fun _ => chain (deed _ trivial) fun _ => chain (rest _) fun _ => deed _ trivial

theorem runScript (code : String) (isAsync : Bool) (timeout : Option Nat) :
    (ConsentBanner.runScript timings code isAsync timeout).Confined may true := by
  refine .andThen (page _ trivial) fun outcome => ?_
  cases outcome with
  | error _ => exact .pure _
  | ok _ => exact .ite (.andThen (.pause _) fun _ => .andThen (page _ trivial) fun _ => .pure _) (.pure _)

omit [may.Open] in
theorem inEach {run : Scope → Deed Unit} (modest : ∀ scope, (run scope).run.Confined may true)
    (nodes : List NodeId) : (ConsentBanner.inEach run nodes).run.Confined may true := by
  induction nodes with
  | nil => exact okay _
  | cons node rest ih => exact chain (modest _) fun _ => ih

set_option linter.unusedSectionVars false in
mutual

theorem action : ∀ (action : Action) (consents : List Category) (scope : Scope),
    (action.run timings consents scope).run.Confined may true
  | .click matcher, _, scope => runClick timings matcher scope
  | .list actions, consents, scope => actions' actions consents scope
  | .consent rules, consents, scope => consentRules rules consents scope
  | .ifCss matcher whenAbsent whenPresent, consents, scope => by
      refine chain (look (find matcher scope)) fun found => ?_
      split
      · exact action? whenAbsent consents scope
      · exact action? whenPresent consents scope
  | .waitCss matcher retries waitTime negated, _, scope =>
      lift (runWaitCss timings matcher retries waitTime negated scope)
  | .forEach matcher inner, consents, scope =>
      chain (look (findAll matcher scope)) fun _ => inEach (fun inside => action inner consents inside) _
  | .hide matcher, _, scope => runHide matcher scope
  | .slide matcher dragTarget axis, _, scope => runSlide timings matcher dragTarget axis scope
  | .close, _, _ => deed _ trivial
  | .wait time, _, _ => rest time
  | .evaluate code isAsync timeout, _, _ => lift (runScript timings code isAsync timeout)

theorem action? : ∀ (action : Option Action) (consents : List Category) (scope : Scope),
    (runAction? timings action consents scope).run.Confined may true
  | none, _, _ => okay _
  | some inner, consents, scope => action inner consents scope

theorem actions' : ∀ (actions : List Action) (consents : List Category) (scope : Scope),
    (runActions timings actions consents scope).run.Confined may true
  | [], _, _ => okay _
  | one :: others, consents, scope =>
      chain (action one consents scope) fun _ => actions' others consents scope

theorem consentRule : ∀ (rule : ConsentRule) (consents : List Category) (scope : Scope),
    (rule.run timings consents scope).run.Confined may true
  | ⟨category, some matcher, some toggle, whenTrue, whenFalse⟩, consents, scope => by
      refine chain (look (isMatched matcher scope)) fun enabled => ?_
      split
      · exact action toggle [] scope
      · exact okay _
  | ⟨category, some matcher, none, whenTrue, whenFalse⟩, consents, scope => by
      unfold ConsentRule.run
      split
      · exact action? whenTrue [] scope
      · exact action? whenFalse [] scope
  | ⟨category, none, toggle, whenTrue, whenFalse⟩, consents, scope => by
      unfold ConsentRule.run
      split
      · exact action? whenTrue [] scope
      · exact action? whenFalse [] scope

theorem consentRules : ∀ (rules : List ConsentRule) (consents : List Category) (scope : Scope),
    (runConsentRules timings rules consents scope).run.Confined may true
  | [], _, _ => okay _
  | rule :: others, consents, scope =>
      chain (consentRule rule consents scope) fun _ => consentRules others consents scope

end

theorem allPresent (matchers : List PresenceMatcher) :
    (ConsentBanner.allPresent matchers).Confined may true := by
  induction matchers with
  | nil => exact .pure _
  | cons matcher others ih =>
      refine .andThen (isMatched _ _) fun outcome => ?_
      split
      · exact ih
      · exact .pure _

theorem anyGroupPresent (groups : List (List PresenceMatcher)) :
    (ConsentBanner.anyGroupPresent groups).Confined may true := by
  induction groups with
  | nil => exact .pure _
  | cons group others ih =>
      cases group with
      | nil => exact ih
      | cons matcher matchers => exact .andThen (allPresent _) fun _ => .ite (.pure _) ih

theorem runMethod (rule : MethodRule) (name : String) (consents : List Category) :
    (rule.runMethod timings name consents).run.Confined may true := action? timings _ _ _

/-! ## Steps -/

theorem check (check : StepCheck) : (check.run timings).Confined may true := by
  cases check with
  | «exists» selector => exact isPresent _
  | visible selector mode => exact isVisible _ _
  | eval code => exact eval _ _
  | waitFor selector limit => exact waitForElement _ _ _
  | waitForVisible selector limit mode => exact waitForVisible _ _ _ _
  | click selector all => exact click _ _
  | waitForThenClick selector limit all => exact waitForThenClick _ _ _ _
  | wait time => exact wait _
  | hide selectors method => exact hide _ _

set_option linter.unusedSectionVars false in
mutual

theorem step : ∀ step : RuleStep, (step.run timings).Confined may true
  | ⟨checks, none, _⟩ => by
      refine ⟨.all fun flow member => ?_, .done _, fun _ _ => .done _⟩
      obtain ⟨one, _, rfl⟩ := List.mem_map.mp member
      exact check timings one
  | ⟨checks, some branching, _⟩ => by
      refine ⟨.all fun flow member => ?_, conditional branching, fun _ _ => .done _⟩
      obtain ⟨one, _, rfl⟩ := List.mem_map.mp member
      exact check timings one

theorem conditional : ∀ branching : Conditional, (branching.run timings).Confined may true
  | ⟨test, thenSteps, none⟩ =>
      .ite (.andThen (step test) fun _ => .ite (.andThen (inOrder thenSteps) fun _ => .pure _) (.pure _))
        (.pure _)
  | ⟨test, thenSteps, some elseSteps⟩ =>
      .ite (.andThen (step test) fun _ => .ite (.andThen (inOrder thenSteps) fun _ => .pure _)
        (.andThen (inOrder elseSteps) fun _ => .pure _)) (.pure _)

theorem inOrder : ∀ steps : List RuleStep, (runInOrder timings steps).Confined may true
  | [] => .pure _
  | one :: others => .andThen (step one) fun _ => .ite (inOrder others) (.pure _)

end

theorem sideBySide (steps : List RuleStep) : (runSideBySide timings steps).Confined may true := by
  refine .andThen (.all fun flow member => ?_) fun _ => .pure _
  obtain ⟨one, _, rfl⟩ := List.mem_map.mp member
  exact step timings one

end Modest

end Flow

end ConsentBanner

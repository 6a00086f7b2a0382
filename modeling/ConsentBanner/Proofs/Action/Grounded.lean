import ConsentBanner.Proofs.Flow.Grounded

/-!
# Actions stay where they are

A lookup starts where it is told to or at an element that it has found, and what it finds is among the elements
that were found.  So do all lookups of an action, and it touches only what it has found (`Action.grounded`).
-/

set_option autoImplicit false

namespace ConsentBanner

/-- Where a call looks for elements. -/
def PageCall.start? : {α : Type} → PageCall α → Option Scope
  | _, .queryAll start _ => some start
  | _, _ => none

/-- The element that a call clicks, marks or drags. -/
def PageCall.touched? : {α : Type} → PageCall α → Option NodeId
  | _, .click node => some node
  | _, .addClass node _ => some node
  | _, .dispatchMouse node _ _ _ => some node
  | _, _ => none

/-- A call that finds elements, or asks for what tells elements apart. -/
def PageCall.IsLook : {α : Type} → PageCall α → Prop
  | _, .queryAll _ _ => True
  | _, .textContent _ => True
  | _, .computedStyle _ _ => True
  | _, .offsetHeight _ => True
  | _, .isTopFrame => True
  | _, _ => False

/-- A call looks for elements at a scope or at an element that was found, and touches only what was found. -/
structure Scope.Reaches (scope : Scope) (known : List NodeId) {α : Type} (call : PageCall α) : Prop where
  start : ∀ start, call.start? = some start → start = scope ∨ ∃ node ∈ known, start = .node node
  touched : ∀ node, call.touched? = some node → node ∈ known

/-- A call looks for elements in that way and does nothing else. -/
def Scope.Sees (scope : Scope) (known : List NodeId) {α : Type} (call : PageCall α) : Prop :=
  call.IsLook ∧ scope.Reaches known call

namespace Scope

variable {α : Type} {known : List NodeId} {call : PageCall α}

theorem reaches_of_aside (scope : Scope) (known : List NodeId) (starts : call.start? = none)
    (touches : call.touched? = none) : scope.Reaches known call :=
  ⟨fun _ is => absurd (starts.symm.trans is) (Option.some_ne_none _).symm,
    fun _ is => absurd (touches.symm.trans is) (Option.some_ne_none _).symm⟩

theorem reaches_of_touched {node : NodeId} (scope : Scope) (starts : call.start? = none)
    (touches : call.touched? = some node) (found : node ∈ known) : scope.Reaches known call :=
  ⟨fun _ is => absurd (starts.symm.trans is) (Option.some_ne_none _).symm,
    fun _ is => Option.some.inj (touches.symm.trans is) ▸ found⟩

theorem reaches_queryAll (scope : Scope) (known : List NodeId) (selector : String) :
    scope.Reaches known (.queryAll scope selector) :=
  ⟨fun _ is => .inl (Option.some.inj is).symm, fun _ is => nomatch is⟩

theorem Reaches.outward {scope : Scope} {node : NodeId} (found : node ∈ known)
    (reaches : (Scope.node node).Reaches known call) : scope.Reaches known call := by
  refine ⟨fun start is => .inr ?_, reaches.touched⟩
  rcases reaches.start start is with rfl | found
  · exact ⟨node, found, rfl⟩
  · exact found

end Scope

namespace Flow.Grounded

variable {α β ε : Type} {good : α → List NodeId → Prop} {known : List NodeId} {scope : Scope}

abbrev Looks (scope : Scope) (good : α → List NodeId → Prop) (known : List NodeId) (lookup : Lookup α) : Prop :=
  Grounded scope.Sees (OrFails good) known lookup.run

/-- Nothing is asked of a value. -/
abbrev Any {α : Type} : α → List NodeId → Prop := fun _ _ => True

theorem outward {node : NodeId} {lookup : Lookup α} (found : node ∈ known)
    (looks : Looks (.node node) good known lookup) : Looks scope good known lookup :=
  looks.weaken (fun _ _ grown sees => ⟨sees.1, sees.2.outward (grown found)⟩) fun _ _ _ ends => ends

theorem call {may : Footing} {call : PageCall α} (allowed : may known call)
    (named : ∀ value, good value (known ++ call.found (.ok value))) :
    Grounded may (OrFails good) known (Lookup.call call).run := by
  refine .page allowed fun reply => .done ?_
  cases reply with
  | ok value => exact named value
  | error error => exact trivial

/-- A call that neither finds nor touches anything. -/
theorem glance (call : PageCall α) (isLook : call.IsLook) (starts : call.start? = none)
    (touches : call.touched? = none) : Looks scope Any known (Lookup.call call) :=
  .call ⟨isLook, scope.reaches_of_aside known starts touches⟩ fun _ => trivial

/-! ## Lookups -/

theorem keep {condition : NodeId → Lookup Bool} {nodes : List NodeId}
    (each : ∀ node ∈ nodes, ∀ later, known ⊆ later → Looks scope Any later (condition node)) :
    Looks scope (fun kept _ => kept ⊆ nodes) known (Lookup.keep condition nodes) := by
  induction nodes generalizing known with
  | nil => exact okay (List.Subset.refl _)
  | cons node rest ih =>
      refine (each node List.mem_cons_self known (List.Subset.refl _)).chain fun holds later grown _ => ?_
      have others := ih fun other member last more =>
        each other (List.mem_cons_of_mem node member) last (List.Subset.trans grown more)
      refine others.chain fun kept last _ within => okay ?_
      split
      · exact List.cons_subset_cons node within
      · exact List.subset_cons_of_subset node within

theorem passesStyles (node : NodeId) (filters : List StyleFilter) :
    Looks scope Any known (Lookup.passesStyles node filters) := by
  induction filters generalizing known with
  | nil => exact okay trivial
  | cons filter rest ih =>
      refine (glance (.computedStyle node filter.property) trivial rfl rfl).chain fun actual later _ _ => ?_
      split
      · exact ih
      · exact okay trivial

theorem keepText (filter : Option TextFilter) (nodes : List NodeId) :
    Looks scope (fun kept _ => kept ⊆ nodes) known (Lookup.keepText filter nodes) := by
  cases filter with
  | none => exact okay (List.Subset.refl _)
  | some filter =>
      exact keep fun node _ _ _ => (glance (.textContent node) trivial rfl rfl).chain fun _ _ _ _ => okay trivial

theorem keepStyled (filters : List StyleFilter) (nodes : List NodeId) :
    Looks scope (fun kept _ => kept ⊆ nodes) known (Lookup.keepStyled filters nodes) := by
  unfold Lookup.keepStyled
  split
  · exact okay (List.Subset.refl _)
  · exact keep fun node _ _ _ => passesStyles node filters

theorem keepDisplayed (wanted : Option Bool) (nodes : List NodeId) :
    Looks scope (fun kept _ => kept ⊆ nodes) known (Lookup.keepDisplayed wanted nodes) := by
  cases wanted with
  | none => exact okay (List.Subset.refl _)
  | some wanted =>
      exact keep fun node _ _ _ => (glance (.offsetHeight node) trivial rfl rfl).chain fun _ _ _ _ => okay trivial

theorem keepFramed (wanted : Option Bool) (nodes : List NodeId) :
    Looks scope (fun kept _ => kept ⊆ nodes) known (Lookup.keepFramed wanted nodes) := by
  cases wanted with
  | none => exact okay (List.Subset.refl _)
  | some wanted =>
      refine (glance .isTopFrame trivial rfl rfl).chain fun _ _ _ _ => okay ?_
      split
      · exact List.Subset.refl _
      · exact List.nil_subset _

/-- The filters of a query leave some of the elements that its selector describes. -/
theorem filtered {selector : String} {text : Option TextFilter} {styles : List StyleFilter}
    {display iframe : Option Bool} {rest : List NodeId → Lookup (List NodeId)}
    (onward : ∀ nodes later, known ⊆ later → nodes ⊆ later →
      Looks scope (fun kept _ => kept ⊆ nodes) later (rest nodes)) :
    Looks scope (fun kept later => kept ⊆ later) known (do
      let nodes ← Lookup.call (.queryAll scope selector)
      let nodes ← Lookup.keepText text nodes
      let nodes ← Lookup.keepStyled styles nodes
      let nodes ← Lookup.keepDisplayed display nodes
      let nodes ← Lookup.keepFramed iframe nodes
      rest nodes) := by
  have asked : Looks scope (fun nodes later => nodes ⊆ later) known (Lookup.call (.queryAll scope selector)) :=
    .call ⟨trivial, scope.reaches_queryAll known selector⟩ fun nodes => List.subset_append_right _ nodes
  refine asked.chain fun _ one grown found => (keepText text _).chain fun _ two more within => ?_
  replace found := List.Subset.trans within (List.Subset.trans found more)
  replace grown := List.Subset.trans grown more
  refine (keepStyled styles _).chain fun _ three more within => ?_
  replace found := List.Subset.trans within (List.Subset.trans found more)
  replace grown := List.Subset.trans grown more
  refine (keepDisplayed display _).chain fun _ four more within => ?_
  replace found := List.Subset.trans within (List.Subset.trans found more)
  replace grown := List.Subset.trans grown more
  refine (keepFramed iframe _).chain fun nodes last more within => ?_
  replace found := List.Subset.trans within (List.Subset.trans found more)
  refine (onward nodes last (List.Subset.trans grown more) found).weaken (fun _ _ _ sees => sees) ?_
  intro outcome final more ends
  cases outcome with
  | ok kept => exact List.Subset.trans ends (List.Subset.trans found more)
  | error error => exact trivial

/-- The target of a match, if there is one, was found. -/
def Targets (resolved : Resolved) (known : List NodeId) : Prop :=
  ∀ node, resolved.target = some node → node ∈ known

theorem targets_head {parent : Option NodeId} {nodes : List NodeId} (found : nodes ⊆ known) :
    Targets ⟨parent, nodes.head?⟩ known := fun _ is => found (List.mem_of_head? is)

mutual

theorem findElements : ∀ (query : ElementQuery) (scope : Scope) (known : List NodeId),
    Looks scope (fun nodes later => nodes ⊆ later) known (Lookup.findElements query scope)
  | ⟨_, _, _, _, _, none⟩, _, _ => filtered fun _ _ _ _ => okay (List.Subset.refl _)
  | ⟨_, _, _, _, _, some matcher⟩, _, _ =>
      filtered fun _ _ _ found => keep fun node member later grown =>
        (outward (grown (found member)) (find matcher (.node node) later)).chain fun _ _ _ _ => okay trivial

theorem find : ∀ (matcher : Matcher) (scope : Scope) (known : List NodeId),
    Looks scope Targets known (Lookup.find matcher scope)
  | ⟨target, none⟩, scope, known =>
      (findElements target scope known).chain fun _ _ _ found => okay (targets_head found)
  | ⟨target, some parent⟩, scope, known => (findElements parent scope known).chain fun
      | [], _, _, _ => okay fun _ => nofun
      | node :: _, later, _, found =>
          (outward (found List.mem_cons_self) (findElements target (.node node) later)).chain
            fun _ _ _ found => okay (targets_head found)

end

theorem findInEach (target : ElementQuery) {parents : List NodeId} (found : parents ⊆ known) :
    Looks scope (fun results later => ∀ resolved ∈ results, Targets resolved later) known
      (Lookup.findInEach target parents) := by
  induction parents generalizing known with
  | nil => exact okay fun _ => nofun
  | cons parent rest ih =>
      refine (outward (found List.mem_cons_self) (findElements target (.node parent) known)).chain ?_
      intro targets later grown here
      have others := ih (List.Subset.trans (List.subset_of_cons_subset found) grown)
      refine others.chain fun others last more there => okay fun resolved member => ?_
      rcases List.mem_append.mp member with own | other
      · obtain ⟨node, isTarget, rfl⟩ := List.mem_map.mp own
        exact fun other is => Option.some.inj is ▸ more (here isTarget)
      · exact there resolved other

theorem findAll (matcher : Matcher) :
    Looks scope (fun results later => ∀ resolved ∈ results, Targets resolved later) known
      (Lookup.findAll matcher scope) := by
  unfold Lookup.findAll
  split
  · refine (findElements _ scope known).chain fun nodes later _ found => okay fun resolved member => ?_
    obtain ⟨node, isTarget, rfl⟩ := List.mem_map.mp member
    exact fun other is => Option.some.inj is ▸ found isTarget
  · exact (findElements _ scope known).chain fun _ _ _ found => findInEach _ found

/-! ## Actions -/

abbrev Stays (scope : Scope) (good : α → List NodeId → Prop) (known : List NodeId) (deed : ExceptT ε Flow α) :
    Prop :=
  Grounded scope.Reaches (OrFails good) known deed.run

theorem Looks.stays {lookup : Lookup α} (looks : Looks scope good known lookup) :
    Stays scope good known lookup :=
  looks.weaken (fun _ _ _ sees => sees.2) fun _ _ _ ends => ends

theorem isPresent (matcher : PresenceMatcher) : Stays scope Any known (Lookup.isPresent matcher scope) := by
  refine (Looks.stays (find matcher.matcher scope known)).chain fun resolved later _ _ => ?_
  split
  · exact okay trivial
  · exact okay trivial
  · exact .call (scope.reaches_of_aside later rfl rfl) fun _ => trivial

theorem look {lookup : Lookup α} (stays : Stays scope good known lookup) :
    Stays scope good known (Deed.look lookup) := by
  refine Grounded.bind stays fun reply later grown ends => .done ?_
  cases reply with
  | ok value => exact ends
  | error error => exact trivial

theorem deed {call : PageCall α} (reaches : scope.Reaches known call) : Stays scope Any known (Deed.call call) :=
  look (.call reaches fun _ => trivial)

theorem pause (time : Nat) : Stays scope Any known (Deed.pause time) := lift (.sleep (.done trivial))

theorem touch {call : PageCall α} {node : NodeId} (found : node ∈ known) (starts : call.start? = none)
    (touches : call.touched? = some node) : Stays scope Any known (Deed.call call) :=
  deed (scope.reaches_of_touched starts touches found)

variable {timings : Timings}

theorem runClick (matcher : Matcher) : Stays scope Any known (ConsentBanner.runClick timings matcher scope) := by
  refine (look (Looks.stays (find matcher scope known))).chain fun resolved later _ found => ?_
  split
  next target is => exact (touch (found target is) rfl rfl).chain fun _ _ _ _ => pause _
  next => exact pause _

theorem runHide (matcher : Matcher) : Stays scope Any known (ConsentBanner.runHide matcher scope) := by
  refine (look (Looks.stays (find matcher scope known))).chain fun resolved later _ found => ?_
  split
  next target is => exact touch (found target is) rfl rfl
  next => exact okay trivial

theorem runWaitCss (matcher : Matcher) (retries waitTime : Option Nat) (negated : Bool) :
    Grounded scope.Reaches Any known
      (ConsentBanner.runWaitCss timings matcher retries waitTime negated scope) := by
  refine Grounded.bind (Grounded.poll _ (fun later _ => ?_) _) fun _ _ _ _ => .done trivial
  refine Grounded.bind (Looks.stays (find matcher scope later)) fun outcome _ _ _ => ?_
  cases outcome with
  | ok resolved => exact .done trivial
  | error error => exact .done trivial

theorem runSlide (matcher dragTarget : Matcher) (axis : SlideAxis) :
    Stays scope Any known (ConsentBanner.runSlide timings matcher dragTarget axis scope) := by
  refine (look (Looks.stays (find matcher scope known))).chain fun resolved one _ found => ?_
  split
  next => exact okay trivial
  next target is =>
    have here := found target is
    refine (look (Looks.stays (find dragTarget scope one))).chain fun goal two more _ => ?_
    replace here := more here
    split
    next => exact okay trivial
    next =>
      refine (deed (scope.reaches_of_aside two rfl rfl)).chain fun start three more _ => ?_
      replace here := more here
      refine (deed (scope.reaches_of_aside three rfl rfl)).chain fun there four more _ => ?_
      replace here := more here
      -- Each of the three events is aimed at the element that is dragged.
      refine (touch here rfl rfl).chain fun _ five more _ => (pause _).chain fun _ six again _ => ?_
      replace here := again (more here)
      refine (touch here rfl rfl).chain fun _ seven more _ => (pause _).chain fun _ eight again _ => ?_
      exact touch (again (more here)) rfl rfl

theorem runScript (code : String) (isAsync : Bool) (timeout : Option Nat) :
    Grounded scope.Reaches Any known (ConsentBanner.runScript timings code isAsync timeout) := by
  refine .page (scope.reaches_of_aside known rfl rfl) fun reply => ?_
  cases reply with
  | error error => exact .done trivial
  | ok value =>
      cases isAsync with
      | false => exact .done trivial
      | true => exact .sleep (.page (scope.reaches_of_aside _ rfl rfl) fun _ => .done trivial)

theorem inEach {run : Scope → Deed Unit} {nodes : List NodeId} (found : nodes ⊆ known)
    (stays : ∀ node later, Stays (.node node) Any later (run (.node node))) :
    Stays scope Any known (ConsentBanner.inEach run nodes) := by
  induction nodes generalizing known with
  | nil => exact okay trivial
  | cons node rest ih =>
      have first : Stays scope Any known (run (.node node)) :=
        (stays node known).weaken (fun _ _ grown reaches => reaches.outward (grown (found List.mem_cons_self)))
          fun _ _ _ ends => ends
      refine first.chain fun _ later grown _ => ih ?_
      exact List.Subset.trans (List.subset_of_cons_subset found) grown

mutual

/-- An action stays where it is, whatever it is made of. -/
theorem action : ∀ (action : Action) (consents : List Category) (scope : Scope) (known : List NodeId),
    Stays scope Any known (action.run timings consents scope)
  | .click matcher, _, _, _ => runClick matcher
  | .list actions, consents, scope, known => actions' actions consents scope known
  | .consent rules, consents, scope, known => consentRules rules consents scope known
  | .ifCss matcher whenAbsent whenPresent, consents, scope, known => by
      refine (look (Looks.stays (find matcher scope known))).chain fun resolved later _ _ => ?_
      split
      · exact action? whenAbsent consents scope later
      · exact action? whenPresent consents scope later
  | .waitCss matcher retries waitTime negated, _, _, _ => lift (runWaitCss matcher retries waitTime negated)
  | .forEach matcher inner, consents, scope, known => by
      refine (look (Looks.stays (findAll matcher))).chain fun results later _ found => ?_
      refine inEach (fun node member => ?_) fun node later => action inner consents (.node node) later
      obtain ⟨resolved, isResult, isTarget⟩ := List.mem_filterMap.mp member
      exact found resolved isResult node isTarget
  | .hide matcher, _, _, _ => runHide matcher
  | .slide matcher dragTarget axis, _, _, _ => runSlide matcher dragTarget axis
  | .close, _, scope, known => deed (scope.reaches_of_aside known rfl rfl)
  | .wait time, _, _, _ => pause time
  | .evaluate code isAsync timeout, _, _, _ => lift (runScript code isAsync timeout)

theorem action? : ∀ (action : Option Action) (consents : List Category) (scope : Scope) (known : List NodeId),
    Stays scope Any known (runAction? timings action consents scope)
  | none, _, _, _ => okay trivial
  | some inner, consents, scope, known => action inner consents scope known

theorem actions' : ∀ (actions : List Action) (consents : List Category) (scope : Scope) (known : List NodeId),
    Stays scope Any known (runActions timings actions consents scope)
  | [], _, _, _ => okay trivial
  | one :: others, consents, scope, known =>
      (action one consents scope known).chain fun _ later _ _ => actions' others consents scope later

theorem consentRule : ∀ (rule : ConsentRule) (consents : List Category) (scope : Scope) (known : List NodeId),
    Stays scope Any known (rule.run timings consents scope)
  | ⟨category, some matcher, some toggle, whenTrue, whenFalse⟩, consents, scope, known => by
      refine (look (isPresent matcher)).chain fun enabled later _ _ => ?_
      split
      · exact action toggle [] scope later
      · exact okay trivial
  | ⟨category, some matcher, none, whenTrue, whenFalse⟩, consents, scope, known => by
      unfold ConsentRule.run
      split
      · exact action? whenTrue [] scope known
      · exact action? whenFalse [] scope known
  | ⟨category, none, toggle, whenTrue, whenFalse⟩, consents, scope, known => by
      unfold ConsentRule.run
      split
      · exact action? whenTrue [] scope known
      · exact action? whenFalse [] scope known

theorem consentRules : ∀ (rules : List ConsentRule) (consents : List Category) (scope : Scope)
    (known : List NodeId), Stays scope Any known (runConsentRules timings rules consents scope)
  | [], _, _, _ => okay trivial
  | rule :: others, consents, scope, known =>
      (consentRule rule consents scope known).chain fun _ later _ _ => consentRules others consents scope later

end

end Flow.Grounded

end ConsentBanner

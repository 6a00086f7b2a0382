import ConsentBanner.Flow.Basic
import ConsentBanner.Query

/-!
# Looking up elements

Which elements of a page a query or a matcher finds.  The filters of a query are applied one after
the other, each to what the ones before it left: text, style, height, frame and children.
-/

set_option autoImplicit false

namespace ConsentBanner

abbrev Lookup (α : Type) : Type 1 := ExceptT PageError Flow α

/-- What a matcher found: a target and the parent that it was found in. -/
structure Resolved where
  parent : Option NodeId
  target : Option NodeId
  deriving DecidableEq, Repr

namespace Lookup

def call {α : Type} (call : PageCall α) : Lookup α := ExceptT.mk (Flow.page call)

/-- The elements that satisfy a condition. -/
def keep (condition : NodeId → Lookup Bool) : List NodeId → Lookup (List NodeId)
  | [] => pure []
  | node :: rest => do
    let holds ← condition node
    let others ← keep condition rest
    return if holds then node :: others else others

def passesStyles (node : NodeId) : List StyleFilter → Lookup Bool
  | [] => pure true
  | filter :: rest => do
    let actual ← call (.computedStyle node filter.property)
    if filter.accepts actual then passesStyles node rest else pure false

/-- The elements whose text passes a filter, if there is one. -/
def keepText (filter : Option TextFilter) (nodes : List NodeId) : Lookup (List NodeId) :=
  match filter with
  | none => pure nodes
  | some filter => keep (fun node => do return filter.accepts (← call (.textContent node))) nodes

def keepStyled (filters : List StyleFilter) (nodes : List NodeId) : Lookup (List NodeId) :=
  if filters.isEmpty then pure nodes else keep (passesStyles · filters) nodes

/-- The elements that take up height, or do not. -/
def keepDisplayed (wanted : Option Bool) (nodes : List NodeId) : Lookup (List NodeId) :=
  match wanted with
  | none => pure nodes
  | some wanted =>
    keep (fun node => do return ((← call (.offsetHeight node)) != 0.0) == wanted) nodes

/-- The elements, if the page is nested as wanted. -/
def keepFramed (wanted : Option Bool) (nodes : List NodeId) : Lookup (List NodeId) :=
  match wanted with
  | none => pure nodes
  | some wanted => do
    let isTop ← call .isTopFrame
    return if (!isTop) == wanted then nodes else []

mutual

def findElements : ElementQuery → Scope → Lookup (List NodeId)
  | ⟨selector, text, styles, display, iframe, child⟩, scope => do
    let nodes ← call (.queryAll scope selector)
    let nodes ← keepText text nodes
    let nodes ← keepStyled styles nodes
    let nodes ← keepDisplayed display nodes
    let nodes ← keepFramed iframe nodes
    match child with
    | none => return nodes
    | some matcher =>
      keep (fun node => do return (← find matcher (.node node)).target.isSome) nodes

/-- The first element that a matcher finds.  With a parent query the target is looked for in the
first parent only. -/
def find : Matcher → Scope → Lookup Resolved
  | ⟨target, none⟩, scope => do
    return ⟨none, (← findElements target scope).head?⟩
  | ⟨target, some parent⟩, scope => do
    match ← findElements parent scope with
    | [] => return ⟨none, none⟩
    | first :: _ => return ⟨some first, (← findElements target (.node first)).head?⟩

end

def findInEach (target : ElementQuery) : List NodeId → Lookup (List Resolved)
  | [] => pure []
  | parent :: rest => do
    let targets ← findElements target (.node parent)
    let others ← findInEach target rest
    return targets.map (fun node => ⟨some parent, some node⟩) ++ others

def findAll (matcher : Matcher) (scope : Scope) : Lookup (List Resolved) := do
  match matcher.parent with
  | none => return (← findElements matcher.target scope).map fun node => ⟨none, some node⟩
  | some parent => findInEach matcher.target (← findElements parent scope)

/-- A presence matcher finds an element, which is checked if that is asked for. -/
def isPresent (matcher : PresenceMatcher) (scope : Scope) : Lookup Bool := do
  match (← find matcher.matcher scope).target, matcher.kind with
  | none, _ => return false
  | some _, .css => return true
  | some node, .checkbox => call (.isChecked node)

end Lookup

end ConsentBanner

import ConsentBanner.Keyed
import ConsentBanner.Page.Call
import ConsentBanner.Page.Style
import ConsentBanner.Selector.Reader

/-!
# Snapshots of pages

A snapshot is a page whose markup never changes.  What happens to it is kept beside the markup: a
log of events, and the few things that later calls depend on, such as which boxes are checked and
which elements were removed.  `Snapshot.perform` answers every call to a page.
-/

set_option autoImplicit false

namespace ConsentBanner

open Markup

inductive PageEvent where
  | click (node : NodeId)
  | addClass (node : NodeId) (name : String)
  | mouse (node : NodeId) (kind : MouseKind) (x y : Float)
  | evaluate (code : String)
  | close
  deriving Repr

def PageEvent.encode : PageEvent → Json
  | .click node => .object [("click", .nat node)]
  | .addClass node name => .object [("addClass", .nat node), ("class", .string name)]
  | .mouse node kind x y =>
    .object [("mouse", kind.encode), ("node", .nat node), ("x", .num x), ("y", .num y)]
  | .evaluate code => .object [("evaluate", .string code)]
  | .close => .string "close"

/-- A change of a page that comes from the page itself. -/
inductive Effect where
  /-- The elements that a selector describes are gone. -/
  | remove (selector : String)
  | show (selector : String)
  | hide (selector : String)
  | cookie (text : String)
  | ready (state : String)
  | url (address : String)
  /-- Page script has these values from now on. -/
  | scripts (values : List (String × Json))
  /-- Calls with these names fail from now on. -/
  | fail (calls : List String)
  /-- Calls with these names do not fail any more. -/
  | heal (calls : List String)

/-- A page with markup that never changes. -/
structure Snapshot where
  document : Document
  url : String
  topFrame : Bool
  readyState : String
  cookie : String
  /-- Boxes that were clicked, with their states. -/
  checked : Keyed NodeId Bool
  /-- Classes that were added. -/
  classes : List (NodeId × String)
  removed : List NodeId
  /-- Elements that are shown or hidden whatever their markup says. -/
  displayed : Keyed NodeId Bool
  /-- The texts of style elements that were added. -/
  styles : Keyed String String
  /-- The values of page script. -/
  scripts : Keyed String Json
  /-- What happens after a click on an element that a selector describes. -/
  hooks : List (Selector × List Effect)
  events : List PageEvent
  /-- Names of calls that fail. -/
  failing : List String

namespace Snapshot

def ofText (markup : String) : Snapshot :=
  { document := .ofText markup, url := "https://snapshot.test/", topFrame := true,
    readyState := "complete", cookie := "", checked := [], classes := [], removed := [],
    displayed := [], styles := [], scripts := [], hooks := [], events := [], failing := [] }

/-- All elements that a selector describes, removed or not; none if it is no selector. -/
def select (page : Snapshot) (selector : String) : List NodeId :=
  match Selector.ofText? selector with
  | some s => s.inDocument page.document
  | none => []

/-- The first element that a selector describes, removed or not. -/
def first? (page : Snapshot) (selector : String) : Option NodeId := (page.select selector).head?

/-- An element belongs to the page: neither it nor one around it was removed. -/
def isAttached (page : Snapshot) (node : NodeId) : Bool :=
  (page.document.element? node).isSome &&
    (page.document.lineage node).all fun n => !page.removed.contains n

def live (page : Snapshot) (node : NodeId) : Except PageError Element :=
  match page.document.element? node with
  | some element => if page.isAttached node then .ok element else .error (.nodeGone node)
  | none => .error (.nodeGone node)

def styleOf (element : Element) : InlineStyle := .ofText ((element.attribute? "style").getD "")

/-- An element is displayed as far as it is concerned itself. -/
def displaysItself (page : Snapshot) (node : NodeId) : Bool :=
  match page.displayed.get? node with
  | some forced => forced
  | none =>
    match page.document.element? node with
    | some element =>
      !element.hasAttribute "hidden" && (styleOf element).get? "display" != some "none"
    | none => false

def isRendered (page : Snapshot) (node : NodeId) : Bool :=
  (page.document.lineage node).all page.displaysItself

def usualHeight : Float := 20.0

/-- The elements that a call for a selector finds: those that belong to the page. -/
def query (page : Snapshot) (scope : Scope) (selector : String) :
    Except PageError (List NodeId) :=
  match Selector.ofText? selector with
  | none => .error (.invalidSelector selector)
  | some s =>
    match scope with
    | .document => .ok ((s.inDocument page.document).filter page.isAttached)
    | .node node => do
      let _ ← page.live node
      return (s.inElement page.document node).filter page.isAttached

def computedStyle (page : Snapshot) (node : NodeId) (element : Element) (property : String) :
    Option String :=
  if property = "display" then
    if page.displaysItself node then
      some (((styleOf element).get? "display").getD "block")
    else some "none"
  else (styleOf element).get? property

/-- An element can be seen.  A fixed one can be seen whatever is around it. -/
def isVisible (page : Snapshot) (node : NodeId) (element : Element) : Bool :=
  if (styleOf element).get? "position" = some "fixed" then page.displaysItself node
  else page.isRendered node

def isChecked (page : Snapshot) (node : NodeId) (element : Element) : Bool :=
  match page.checked.get? node with
  | some checked => checked
  | none => element.hasAttribute "checked"

def isSwitch (element : Element) : Bool :=
  element.name = "input" &&
    (element.attribute? "type" = some "checkbox" || element.attribute? "type" = some "radio")

/-- The rectangle that an element's markup gives it. -/
def rect (element : Element) : Rect :=
  let style := styleOf element
  ⟨(style.pixels? "left").getD 0.0, (style.pixels? "top").getD 0.0,
    (style.pixels? "width").getD 0.0, (style.pixels? "height").getD 0.0⟩

/-- An element has a class, from its markup or added later. -/
def hasClass (page : Snapshot) (node : NodeId) (name : String) : Bool :=
  page.classes.contains (node, name) ||
    match page.document.element? node with
    | some element => (Text.words ((element.attribute? "class").getD "")).contains name
    | none => false

/-- The elements that were clicked, in order. -/
def clicks (page : Snapshot) : List NodeId :=
  page.events.filterMap fun event =>
    match event with
    | .click node => some node
    | _ => none

def wasClicked (page : Snapshot) (selector : String) : Bool :=
  (page.select selector).any page.clicks.contains

def styleText? (page : Snapshot) (id : String) : Option String := page.styles.get? id

def isClosed (page : Snapshot) : Bool :=
  page.events.any fun event =>
    match event with
    | .close => true
    | _ => false

def record (page : Snapshot) (event : PageEvent) : Snapshot :=
  { page with events := page.events ++ [event] }

/-- Puts the same value under several keys. -/
def putAll (table : Keyed NodeId Bool) (nodes : List NodeId) (value : Bool) : Keyed NodeId Bool :=
  nodes.foldl (fun table node => table.put node value) table

def apply (page : Snapshot) : Effect → Snapshot
  | .remove selector => { page with removed := page.removed ++ page.select selector }
  | .show selector => { page with displayed := putAll page.displayed (page.select selector) true }
  | .hide selector => { page with displayed := putAll page.displayed (page.select selector) false }
  | .cookie text => { page with cookie := text }
  | .ready state => { page with readyState := state }
  | .url address => { page with url := address }
  | .scripts values =>
    { page with scripts := values.foldl (fun table entry => table.put entry.1 entry.2) page.scripts }
  | .fail calls => { page with failing := page.failing ++ calls }
  | .heal calls => { page with failing := page.failing.filter fun call => !calls.contains call }

def applyAll (page : Snapshot) (effects : List Effect) : Snapshot := effects.foldl apply page

/-- Lets effects follow each click on an element that a selector describes. -/
def onClick (page : Snapshot) (selector : String) (effects : List Effect) :
    Except PageError Snapshot :=
  match Selector.ofText? selector with
  | some s => .ok { page with hooks := page.hooks ++ [(s, effects)] }
  | none => .error (.invalidSelector selector)

def clickEffects (page : Snapshot) (node : NodeId) : List Effect :=
  (page.hooks.filter fun hook => hook.1.accepts page.document none node).flatMap Prod.snd

def clicked (page : Snapshot) (node : NodeId) (element : Element) : Snapshot :=
  let page := page.record (.click node)
  let page :=
    if isSwitch element then
      { page with checked := page.checked.put node (!page.isChecked node element) }
    else page
  page.applyAll (page.clickEffects node)

def reply {α : Type} (page : Snapshot) : PageCall α → Except PageError α × Snapshot
  | .location => (.ok page.url, page)
  | .isTopFrame => (.ok page.topFrame, page)
  | .readyState => (.ok page.readyState, page)
  | .cookie => (.ok page.cookie, page)
  | .queryAll scope selector => (page.query scope selector, page)
  | .textContent node => ((page.live node).map Element.text, page)
  | .computedStyle node property =>
    ((page.live node).map (page.computedStyle node · property), page)
  | .offsetHeight node =>
    ((page.live node).map fun element =>
      if page.isRendered node then ((styleOf element).pixels? "height").getD usualHeight else 0.0,
      page)
  | .isVisible node => ((page.live node).map (page.isVisible node), page)
  | .isChecked node => ((page.live node).map (page.isChecked node), page)
  | .click node =>
    match page.live node with
    | .ok element => (.ok (), page.clicked node element)
    | .error error => (.error error, page)
  | .addClass node name =>
    match page.live node with
    | .ok _ =>
      (.ok (), { page with classes := page.classes ++ [(node, name)] }.record (.addClass node name))
    | .error error => (.error error, page)
  | .boundingRect node => ((page.live node).map rect, page)
  | .dispatchMouse node kind x y =>
    match page.live node with
    | .ok _ => (.ok (), page.record (.mouse node kind x y))
    | .error error => (.error error, page)
  | .appendStyle id css =>
    (.ok (), { page with styles := page.styles.put id ((page.styles.get? id).getD "" ++ css) })
  | .removeStyle id =>
    (.ok (page.styles.has id), { page with styles := page.styles.erase id })
  | .evaluate code =>
    let page := page.record (.evaluate code)
    match page.scripts.get? code with
    | some value => (.ok value, page)
    | none => (.error (.script ("no scripted result for `" ++ code ++ "`")), page)
  | .close => (.ok (), page.record .close)

/-- All that a call can do to a page: a click has what follows it, and any other call changes nothing but classes,
style elements and the log. -/
theorem reply_changes {α : Type} (page : Snapshot) (call : PageCall α) :
    (∃ node element, (page.reply call).2 = page.clicked node element) ∨
      ∃ classes styles events,
        (page.reply call).2 = { page with classes := classes, styles := styles, events := events } := by
  cases call with
  | click node =>
      rw [reply]
      cases page.live node with
      | ok element => exact .inl ⟨node, element, rfl⟩
      | error _ => exact .inr ⟨_, _, _, rfl⟩
  | addClass node _ | dispatchMouse node _ _ _ =>
      rw [reply]
      cases page.live node <;> exact .inr ⟨_, _, _, rfl⟩
  | evaluate code =>
      rw [reply]
      cases (page.record (.evaluate code)).scripts.get? code <;> exact .inr ⟨_, _, _, rfl⟩
  | _ => exact .inr ⟨_, _, _, rfl⟩

def perform {α : Type} (page : Snapshot) (call : PageCall α) : Except PageError α × Snapshot :=
  if page.failing.contains call.name then (.error (.backend ("injected " ++ call.name)), page)
  else page.reply call

end Snapshot

end ConsentBanner

import ConsentBanner.Engine.Detection
import ConsentBanner.Proofs.Action.Grounded

/-!
# Pages that do not change

A page that does not change is known by its replies: the same call always gets the same one.  What a flow comes
to that only calls such a page is settled by these replies (`Flow.consult`).  Unless a call fails that it makes,
a lookup gives a value there (`Lookup.Gives`), and where the page of a world replies in this way, the lookup is run
at once and leaves the world as it is (`Flow.run_of_consult`).

A glance is a flow that makes calls to the page, none of which changes it, and waits for nothing.  On every page it
comes to a value at once.  Lookups are glances, and strict ones: a lookup ends with the first call that fails
(`Lookup.Strict`), so a lookup that succeeds is one whose calls do.
-/

set_option autoImplicit false

namespace ConsentBanner

/-- A page that does not change, with its replies to all calls. -/
structure FixedPage where
  reply : {α : Type} → PageCall α → Except PageError α

namespace FixedPage

/-- A snapshot as it replies now. -/
def ofSnapshot (page : Snapshot) : FixedPage := ⟨fun call => (page.perform call).1⟩

variable (page : FixedPage)

/-- The elements that a selector describes; none if the call fails. -/
def elements (scope : Scope) (selector : String) : List NodeId :=
  Primitive.orElse (page.reply (.queryAll scope selector)) []

/-- The text of an element; the empty one if the call fails. -/
def text (node : NodeId) : String := Primitive.orElse (page.reply (.textContent node)) ""

/-- The value of a style property of an element; none if the call fails. -/
def style (node : NodeId) (property : String) : Option String :=
  Primitive.orElse (page.reply (.computedStyle node property)) none

/-- The height that an element takes up; zero if the call fails. -/
def height (node : NodeId) : Float := Primitive.orElse (page.reply (.offsetHeight node)) 0.0

/-- The page is in the top frame, which it is if the call fails. -/
def isTop : Bool := Primitive.orElse (page.reply .isTopFrame) true

end FixedPage

namespace Flow

variable {α β : Type} {page : FixedPage}

/-- What a flow comes to on a page that does not change.  There is nothing if it does anything but call the
page. -/
def consult {α : Type} (page : FixedPage) : Flow α → Option α
  | .done value => some value
  | .ask (.page call) next => consult page (next (page.reply call))
  | _ => none

/-- All calls succeed that a flow makes on a page that does not change. -/
def goesThrough {α : Type} (page : FixedPage) : Flow α → Bool
  | .done _ => true
  | .ask (.page call) next => (page.reply call).isOk && goesThrough page (next (page.reply call))
  | _ => true

theorem consult_bind (f : α → Flow β) : ∀ flow : Flow α,
    (flow.bind f).consult page = (flow.consult page).bind fun value => (f value).consult page
  | .done _ => rfl
  | .ask request next => by
      have onward := fun reply => consult_bind f (next reply)
      cases request with
      | page call => exact onward _
      | _ => rfl
  | .sleep _ _ => rfl
  | .asleep _ _ _ => rfl
  | .await _ _ => rfl
  | .both _ _ _ => rfl
  | .first _ _ _ => rfl
  | .race _ _ _ _ => rfl

/-- Where the calls of two flows in sequence succeed, those of the first succeed, and then those of the second. -/
theorem goesThrough_bind {f : α → Flow β} : ∀ {flow : Flow α}, (flow.bind f).goesThrough page = true →
    flow.goesThrough page = true ∧ ∀ value, flow.consult page = some value → (f value).goesThrough page = true
  | .done value, through => ⟨rfl, fun other is => Option.some.inj is ▸ through⟩
  | .ask request next, through => by
      have onward := fun reply => @goesThrough_bind f (next reply)
      cases request with
      | page call =>
          obtain ⟨succeeds, rest⟩ := Bool.and_eq_true_iff.mp through
          obtain ⟨first, second⟩ := onward _ rest
          exact ⟨Bool.and_eq_true_iff.mpr ⟨succeeds, first⟩, second⟩
      | _ => exact ⟨rfl, fun _ => nofun⟩
  | .sleep _ _, _ => ⟨rfl, fun _ => nofun⟩
  | .asleep _ _ _, _ => ⟨rfl, fun _ => nofun⟩
  | .await _ _, _ => ⟨rfl, fun _ => nofun⟩
  | .both _ _ _, _ => ⟨rfl, fun _ => nofun⟩
  | .first _ _ _, _ => ⟨rfl, fun _ => nofun⟩
  | .race _ _ _ _, _ => ⟨rfl, fun _ => nofun⟩

end Flow

theorem Snapshot.perform_of_isLook (page : Snapshot) {α : Type} {call : PageCall α} (looks : call.IsLook) :
    (page.perform call).2 = page := by
  rw [perform]
  split
  · rfl
  · cases call with
    | queryAll | textContent | computedStyle | offsetHeight | isTopFrame => rfl
    | _ => cases looks

/-- A flow that only looks at the page is run at once, with what it comes to on the page as it is, and leaves the
world as it is. -/
theorem Flow.run_of_consult {α : Type} {scope : Scope} {good : α → List NodeId → Prop} {known : List NodeId}
    {flow : Flow α} (looks : flow.Grounded scope.Sees good known) {world : World} {value : α}
    (comes : flow.consult (.ofSnapshot world.page) = some value) : flow.run world = (.done value, world) := by
  induction looks with
  | done _ =>
      cases comes
      rfl
  | @page β known call next sees _ ih =>
      have still : ({ world with page := (world.page.perform call).2 } : World) = world := by
        rw [world.page.perform_of_isLook sees.1]
      have onward := ih _ comes
      rw [run]
      change (next (world.page.perform call).1).run { world with page := (world.page.perform call).2 } = _
      rw [still]
      exact onward
  | sleep _ _ => cases comes
  | asleep _ _ => cases comes

namespace Lookup

/-- Unless a call fails that it makes, a lookup gives a value. -/
def Gives {α : Type} (page : FixedPage) (lookup : Lookup α) (value : α) : Prop :=
  lookup.run.goesThrough page = true → lookup.run.consult page = some (.ok value)

namespace Gives

variable {α β : Type} {page : FixedPage} {value : α}

theorem okay (value : α) : Gives page (pure value : Lookup α) value := fun _ => rfl

theorem chain {lookup : Lookup α} {f : α → Lookup β} {result : β} (first : Gives page lookup value)
    (onward : Gives page (f value) result) : Gives page (lookup >>= f) result := by
  intro through
  obtain ⟨one, two⟩ := Flow.goesThrough_bind (show (lookup.run.bind _).goesThrough page = true from through)
  have gives := first one
  change (lookup.run.bind _).consult page = _
  rw [Flow.consult_bind, gives]
  exact onward (two _ gives)

theorem call (call : PageCall α) (otherwise : α) :
    Gives page (Lookup.call call) (Primitive.orElse (page.reply call) otherwise) := by
  intro through
  have succeeds : (page.reply call).isOk = true := (Bool.and_eq_true_iff.mp through).1
  change some (page.reply call) = _
  cases reply : page.reply call with
  | ok value => rfl
  | error error =>
      rw [reply] at succeeds
      cases succeeds

theorem map {lookup : Lookup α} (f : α → β) (gives : Gives page lookup value) :
    Gives page (lookup >>= fun value => pure (f value)) (f value) := gives.chain (okay _)

/-- Of some elements those are kept for which a condition gives yes. -/
theorem keep {condition : NodeId → Lookup Bool} {holds : NodeId → Bool} (nodes : List NodeId)
    (each : ∀ node, Gives page (condition node) (holds node)) :
    Gives page (Lookup.keep condition nodes) (nodes.filter holds) := by
  induction nodes with
  | nil => exact okay []
  | cons node rest ih =>
      refine (each node).chain (ih.chain ?_)
      rw [List.filter_cons]
      exact okay _

end Gives

end Lookup

/-! ## Glances -/

def PageCall.Reads : {α : Type} → PageCall α → Prop
  | _, .click _ => False
  | _, .addClass _ _ => False
  | _, .dispatchMouse _ _ _ _ => False
  | _, .appendStyle _ _ => False
  | _, .removeStyle _ => False
  | _, .evaluate _ => False
  | _, .close => False
  | _, _ => True

def Request.Reads : {β : Type} → Request β → Prop
  | _, .page call => call.Reads
  | _, _ => False

/-- Reading a snapshot leaves it as it is, whether the call fails or not. -/
theorem Snapshot.perform_of_reads (page : Snapshot) {α : Type} {call : PageCall α} (reads : call.Reads) :
    (page.perform call).2 = page := by
  rw [perform]
  split
  · rfl
  · cases call with
    | click | addClass | dispatchMouse | appendStyle | removeStyle | evaluate | close => cases reads
    | _ => rfl

theorem World.answer_of_reads (world : World) {α : Type} {call : PageCall α} (reads : call.Reads) :
    world.answer (.page call) = ((world.page.perform call).1, world) := by
  have still : (world.page.perform call).2 = world.page := world.page.perform_of_reads reads
  simp only [answer, still]

namespace Flow

/-- A flow makes calls that leave the page as it is, and waits for nothing. -/
inductive IsGlance {α : Type} : Flow α → Prop where
  | done (value : α) : IsGlance (.done value)
  | ask {β : Type} {call : PageCall β} {next : Except PageError β → Flow α} (reads : call.Reads)
      (onward : ∀ reply, IsGlance (next reply)) : IsGlance (.ask (.page call) next)

namespace IsGlance

variable {α β : Type} {flow : Flow α} {f : α → Flow β}

theorem bind (first : flow.IsGlance) (onward : ∀ value, (f value).IsGlance) : (flow.bind f).IsGlance := by
  induction first with
  | done value => exact onward value
  | ask reads _ ih => exact .ask reads ih

theorem comes (glance : flow.IsGlance) (page : FixedPage) : ∃ value, flow.consult page = some value := by
  induction glance with
  | done value => exact ⟨value, rfl⟩
  | @ask β call next _ _ ih => exact ih (page.reply call)

/-- A glance is over at once, with what it comes to on the page as it is, and changes nothing. -/
theorem run (glance : flow.IsGlance) {world : World} {value : α}
    (comes : flow.consult (.ofSnapshot world.page) = some value) : flow.run world = (.done value, world) := by
  induction glance with
  | done _ =>
      cases comes
      rfl
  | @ask β call next reads _ ih =>
      rw [Flow.run, world.answer_of_reads reads]
      exact ih _ comes

theorem ofCall (call : PageCall α) (reads : call.Reads) (otherwise : α) : (Primitive.ask call otherwise).IsGlance :=
  .ask reads fun _ => .done _

theorem query (selector : String) : (Primitive.query selector).IsGlance :=
  ofCall (.queryAll .document selector) trivial []

theorem isPresent (selector : String) : (Primitive.isPresent selector).IsGlance :=
  (query selector).bind fun _ => .done _

theorem visibilities (nodes : List NodeId) : (Primitive.visibilities nodes).IsGlance := by
  induction nodes with
  | nil => exact .done []
  | cons node rest ih => exact (ofCall (.isVisible node) trivial false).bind fun _ => ih.bind fun _ => .done _

theorem isVisible (selector : String) (mode : VisibilityMode) : (Primitive.isVisible selector mode).IsGlance :=
  (query selector).bind fun nodes => (visibilities nodes).bind fun _ => .done _

end IsGlance

end Flow

namespace Lookup

/-- A lookup makes calls that leave the page as it is, and ends with the first that fails. -/
inductive Strict {α : Type} : Flow (Except PageError α) → Prop where
  | done (outcome : Except PageError α) : Strict (.done outcome)
  | ask {β : Type} {call : PageCall β} {next : Except PageError β → Flow (Except PageError α)} (reads : call.Reads)
      (fails : ∀ error, next (.error error) = .done (.error error))
      (onward : ∀ value, Strict (next (.ok value))) : Strict (.ask (.page call) next)

namespace Strict

variable {α β : Type} {page : FixedPage}

theorem isGlance {flow : Flow (Except PageError α)} (strict : Strict flow) : flow.IsGlance := by
  induction strict with
  | done outcome => exact .done outcome
  | @ask β call next reads fails _ ih =>
      refine .ask reads fun reply => ?_
      cases reply with
      | ok value => exact ih value
      | error error => exact fails error ▸ .done _

/-- All calls succeed of a lookup that does. -/
theorem through {flow : Flow (Except PageError α)} {value : α} (strict : Strict flow)
    (succeeds : flow.consult page = some (.ok value)) : flow.goesThrough page = true := by
  induction strict with
  | done outcome => rfl
  | @ask β call next reads fails _ ih =>
      rw [Flow.consult] at succeeds
      rw [Flow.goesThrough]
      cases reply : page.reply call with
      | ok given =>
          rw [reply] at succeeds
          exact ih given succeeds
      | error error =>
          rw [reply, fails] at succeeds
          cases succeeds

theorem okay (value : α) : Strict (pure value : Lookup α).run := .done _

theorem chain {lookup : Lookup α} {f : α → Lookup β} (first : Strict lookup.run)
    (onward : ∀ value, Strict (f value).run) : Strict (lookup >>= f).run := by
  change Strict (lookup.run.bind _)
  generalize lookup.run = flow at first
  induction first with
  | done outcome =>
      cases outcome with
      | ok value => exact onward value
      | error error => exact .done _
  | @ask γ call next reads fails _ ih =>
      refine .ask reads (fun error => ?_) ih
      simp only [fails]
      rfl

theorem map {lookup : Lookup α} (f : α → β) (strict : Strict lookup.run) :
    Strict (lookup >>= fun value => pure (f value)).run := strict.chain fun _ => okay _

theorem call (call : PageCall α) (reads : call.Reads) : Strict (Lookup.call call).run :=
  .ask reads (fun _ => rfl) fun _ => .done _

theorem keep {condition : NodeId → Lookup Bool} (each : ∀ node, Strict (condition node).run)
    (nodes : List NodeId) : Strict (Lookup.keep condition nodes).run := by
  induction nodes with
  | nil => exact okay []
  | cons node rest ih => exact (each node).chain fun _ => ih.map _

theorem passesStyles (node : NodeId) (filters : List StyleFilter) :
    Strict (Lookup.passesStyles node filters).run := by
  induction filters with
  | nil => exact okay true
  | cons filter rest ih =>
      refine chain (call (.computedStyle node filter.property) trivial) fun actual => ?_
      split
      · exact ih
      · exact okay false

theorem keepText (filter : Option TextFilter) (nodes : List NodeId) : Strict (Lookup.keepText filter nodes).run := by
  cases filter with
  | none => exact okay nodes
  | some filter => exact keep (fun node => (call (.textContent node) trivial).map _) nodes

theorem keepStyled (filters : List StyleFilter) (nodes : List NodeId) :
    Strict (Lookup.keepStyled filters nodes).run := by
  unfold Lookup.keepStyled
  split
  · exact okay nodes
  · exact keep (fun node => passesStyles node filters) nodes

theorem keepDisplayed (wanted : Option Bool) (nodes : List NodeId) :
    Strict (Lookup.keepDisplayed wanted nodes).run := by
  cases wanted with
  | none => exact okay nodes
  | some wanted => exact keep (fun node => (call (.offsetHeight node) trivial).map _) nodes

theorem keepFramed (wanted : Option Bool) (nodes : List NodeId) : Strict (Lookup.keepFramed wanted nodes).run := by
  cases wanted with
  | none => exact okay nodes
  | some wanted => exact (call .isTopFrame trivial).map _

/-- The filters of a query, one after the other. -/
theorem staged {selector : String} {text : Option TextFilter} {styles : List StyleFilter}
    {display iframe : Option Bool} {scope : Scope} {rest : List NodeId → Lookup (List NodeId)}
    (onward : ∀ nodes, Strict (rest nodes).run) :
    Strict (do
      let nodes ← Lookup.call (.queryAll scope selector)
      let nodes ← Lookup.keepText text nodes
      let nodes ← Lookup.keepStyled styles nodes
      let nodes ← Lookup.keepDisplayed display nodes
      let nodes ← Lookup.keepFramed iframe nodes
      rest nodes : Lookup (List NodeId)).run :=
  chain (call (.queryAll scope selector) trivial) fun nodes => (keepText text nodes).chain fun nodes =>
    (keepStyled styles nodes).chain fun nodes => (keepDisplayed display nodes).chain fun nodes =>
      (keepFramed iframe nodes).chain onward

mutual

theorem findElements : ∀ (query : ElementQuery) (scope : Scope), Strict (Lookup.findElements query scope).run
  | ⟨_, _, _, _, _, none⟩, _ => staged okay
  | ⟨_, _, _, _, _, some matcher⟩, _ => staged (keep fun node => (find matcher (.node node)).map _)

theorem find : ∀ (matcher : Matcher) (scope : Scope), Strict (Lookup.find matcher scope).run
  | ⟨target, none⟩, scope => (findElements target scope).map _
  | ⟨target, some parent⟩, scope => (findElements parent scope).chain fun
      | [] => okay _
      | first :: _ => (findElements target (.node first)).map _

end

theorem findInEach (target : ElementQuery) (parents : List NodeId) :
    Strict (Lookup.findInEach target parents).run := by
  induction parents with
  | nil => exact okay []
  | cons parent rest ih => exact (findElements target (.node parent)).chain fun _ => ih.map _

theorem findAll (matcher : Matcher) (scope : Scope) : Strict (Lookup.findAll matcher scope).run := by
  unfold Lookup.findAll
  split
  · exact (findElements _ scope).map _
  · exact (findElements _ scope).chain fun parents => findInEach _ parents

end Strict

end Lookup

end ConsentBanner

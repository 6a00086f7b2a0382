import ConsentBanner.Engine.State
import ConsentBanner.Message
import ConsentBanner.Page.Call

/-!
# Flows

A `Flow` is something that takes its time: it makes requests, each answered at once, waits for times
and for answers from page script, and runs other flows side by side.  A flow is data; what happens
when it runs is said in `Flow.Run`.
-/

set_option autoImplicit false

namespace ConsentBanner

/-- What a flow can ask of its surroundings, each with the type of the answer. -/
inductive Request : Type → Type 1 where
  /-- A call to the page. -/
  | page {α : Type} (call : PageCall α) : Request (Except PageError α)
  /-- A message to the host. -/
  | send (message : Outbound) : Request Unit
  /-- Asks the host for the value of page script; the answer is the number of the request. -/
  | openEval (code : String) : Request String
  /-- Hands in the value of page script for a request; says whether somebody waits for it. -/
  | resolve (id : String) (value : Json) : Request Bool
  /-- How many requests for page script are open. -/
  | openCount : Request Nat
  /-- What the engine knows. -/
  | state : Request EngineState
  /-- Changes what the engine knows. -/
  | update (change : EngineState → EngineState) : Request Unit
  /-- What a handler remembers. -/
  | memory (slot : Nat) : Request Memory
  /-- Changes what a handler remembers. -/
  | remember (slot : Nat) (change : Memory → Memory) : Request Unit
  /-- Notes the call of a scripted routine; the answer counts the calls before it. -/
  | note (call : HandlerCall) : Request Nat
  /-- Notes in the journal what a handler does. -/
  | record (entry : JournalEntry) : Request Unit
  /-- The time. -/
  | clock : Request Nat

/-- Something that takes its time and comes to a value. -/
inductive Flow : Type → Type 1 where
  | done {α : Type} (value : α) : Flow α
  /-- Makes a request and goes on with the answer. -/
  | ask {α β : Type} (request : Request β) (next : β → Flow α) : Flow α
  /-- Goes on after a time. -/
  | sleep {α : Type} (time : Nat) (next : Flow α) : Flow α
  /-- Sleeps until a point in time, having fallen asleep as the one with this number. -/
  | asleep {α : Type} (due order : Nat) (next : Flow α) : Flow α
  /-- Waits for the value of page script that was asked for; there is none if the request is not open
  any more. -/
  | await {α : Type} (id : String) (next : Option Json → Flow α) : Flow α
  /-- Runs two flows side by side, the first one first, and goes on when both are done. -/
  | both {α β γ : Type} (left : Flow β) (right : Flow γ) (next : β → γ → Flow α) : Flow α
  /-- Runs two flows side by side, the first one first, and goes on when one is done; the other is
  given up. -/
  | first {α β : Type} (left right : Flow β) (next : β → Flow α) : Flow α
  /-- Runs flows side by side.  When the first of them comes to true, another one is started, which is
  ahead of them from then on.  Goes on when all are done: with the value of the started one, or
  without if none came to true. -/
  | race {α : Type} (lanes : List (Flow Bool)) (started : Bool) (winner : Flow Bool)
      (next : Option Bool → Flow α) : Flow α

namespace Flow

def bind {α β : Type} : Flow α → (α → Flow β) → Flow β
  | .done a, f => f a
  | .ask request next, f => .ask request fun x => (next x).bind f
  | .sleep time next, f => .sleep time (next.bind f)
  | .asleep due order next, f => .asleep due order (next.bind f)
  | .await id next, f => .await id fun x => (next x).bind f
  | .both left right next, f => .both left right fun a b => (next a b).bind f
  | .first left right next, f => .first left right fun a => (next a).bind f
  | .race lanes started winner next, f => .race lanes started winner fun a => (next a).bind f

instance : Monad Flow where
  pure := .done
  bind := Flow.bind

theorem pure_eq {α : Type} (a : α) : (pure a : Flow α) = .done a := rfl

theorem andThen_eq {α β : Type} (flow : Flow α) (f : α → Flow β) : flow >>= f = flow.bind f := rfl

theorem bind_done {α : Type} : ∀ flow : Flow α, flow.bind .done = flow
  | .done _ => rfl
  | .ask _ next => by simp only [bind, fun x => bind_done (next x)]
  | .sleep _ next => by simp only [bind, bind_done next]
  | .asleep _ _ next => by simp only [bind, bind_done next]
  | .await _ next => by simp only [bind, fun x => bind_done (next x)]
  | .both _ _ next => by simp only [bind, fun a b => bind_done (next a b)]
  | .first _ _ next => by simp only [bind, fun a => bind_done (next a)]
  | .race _ _ _ next => by simp only [bind, fun a => bind_done (next a)]

theorem bind_assoc {α β γ : Type} (g : β → Flow γ) (f : α → Flow β) :
    ∀ flow : Flow α, (flow.bind f).bind g = flow.bind fun a => (f a).bind g
  | .done _ => rfl
  | .ask _ next => by simp only [bind, fun x => bind_assoc g f (next x)]
  | .sleep _ next => by simp only [bind, bind_assoc g f next]
  | .asleep _ _ next => by simp only [bind, bind_assoc g f next]
  | .await _ next => by simp only [bind, fun x => bind_assoc g f (next x)]
  | .both _ _ next => by simp only [bind, fun a b => bind_assoc g f (next a b)]
  | .first _ _ next => by simp only [bind, fun a => bind_assoc g f (next a)]
  | .race _ _ _ next => by simp only [bind, fun a => bind_assoc g f (next a)]

def request {α : Type} (request : Request α) : Flow α := .ask request .done

def page {α : Type} (call : PageCall α) : Flow (Except PageError α) := request (.page call)

def send (message : Outbound) : Flow Unit := request (.send message)

def pause (time : Nat) : Flow Unit := .sleep time (.done ())

def all {α : Type} : List (Flow α) → Flow (List α)
  | [] => .done []
  | flow :: rest => .both flow (all rest) fun a others => .done (a :: others)

/-- Runs flows side by side for the value of the one that is done first. -/
def anyOf {α : Type} (flow : Flow α) : List (Flow α) → Flow α
  | [] => flow
  | other :: rest => .first flow (anyOf other rest) .done

/-- A flow's value, unless it takes longer than a time. -/
def within {α : Type} (time : Nat) (flow : Flow α) : Flow (Option α) :=
  .first (flow.bind fun a => .done (some a)) (.sleep time (.done none)) .done

/-- Asks again and again, with a pause between, until the answer is yes or no attempt is left.  The
number is that of the attempts after the first. -/
def poll (attempt : Flow Bool) (interval : Nat) : Nat → Flow Bool
  | 0 => attempt
  | retries + 1 =>
    attempt.bind fun yes => if yes then .done true else .sleep interval (poll attempt interval retries)

def each {α : Type} (run : α → Flow Unit) : List α → Flow Unit
  | [] => .done ()
  | a :: rest => (run a).bind fun _ => each run rest

end Flow

end ConsentBanner

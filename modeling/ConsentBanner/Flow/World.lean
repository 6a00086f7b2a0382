import ConsentBanner.Flow.Basic
import ConsentBanner.Flow.Bridge
import ConsentBanner.Page.Snapshot

/-!
# What surrounds a flow

A `World` is a page with an engine in it, the messages that were sent, the time, and what was noted
along the way.  `World.answer` answers every request of a flow.
-/

set_option autoImplicit false

namespace ConsentBanner

structure World where
  page : Snapshot
  engine : EngineState
  bridge : Bridge
  /-- All messages to the host. -/
  sent : List Outbound
  /-- What handlers remember, by their slots. -/
  memories : Keyed Nat Memory
  /-- All calls of scripted routines. -/
  calls : List HandlerCall
  /-- What the engine had handlers do and what it came to. -/
  journal : List JournalEntry
  /-- The time in milliseconds. -/
  clock : Nat
  /-- How many sleeps and answers there were; numbers them in the order of events. -/
  order : Nat

namespace World

/-- A page in which nothing has happened yet. -/
def start (page : Snapshot) : World :=
  { page := page, engine := .initial, bridge := .empty, sent := [], memories := [], calls := [],
    journal := [], clock := 0, order := 1 }

/-- What a handler remembers. -/
def memory (world : World) (slot : Nat) : Memory := (world.memories.get? slot).getD .blank

def send (world : World) (message : Outbound) : World :=
  { world with sent := world.sent ++ [message] }

def openEval (world : World) (code : String) : World :=
  { world with bridge := world.bridge.openNext }.send (.evalRequest world.bridge.nextId code)

/-- The world after an answer to a request for page script, and whether the request was open. -/
def resolve (world : World) (id : String) (value : Json) : Bool × World :=
  let (accepted, bridge) := world.bridge.resolve id value world.order
  (accepted, { world with bridge := bridge, order := world.order + 1 })

def forget (world : World) (ids : List String) : World :=
  { world with bridge := world.bridge.forget ids }

def callsOf (world : World) (call : HandlerCall) : Nat :=
  (world.calls.filter fun c => c.slot = call.slot && c.routine = call.routine).length

def answer {α : Type} (world : World) : Request α → α × World
  | .page call =>
    let (reply, page) := world.page.perform call
    (reply, { world with page := page })
  | .send message => ((), world.send message)
  | .openEval code => (world.bridge.nextId, world.openEval code)
  | .resolve id value => world.resolve id value
  | .openCount => (world.bridge.pending.length, world)
  | .state => (world.engine, world)
  | .update change => ((), { world with engine := change world.engine })
  | .memory slot => (world.memory slot, world)
  | .remember slot change =>
    ((), { world with memories := world.memories.put slot (change (world.memory slot)) })
  | .note call => (world.callsOf call, { world with calls := world.calls ++ [call] })
  | .record entry => ((), { world with journal := world.journal ++ [entry] })
  | .clock => (world.clock, world)

end World

end ConsentBanner

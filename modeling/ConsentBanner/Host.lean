import ConsentBanner.Engine.Run
import ConsentBanner.Flow.Run
import ConsentBanner.Rehearsal.Agenda

/-!
# The host

The host serves an engine until nothing is left to do: it answers the announcement with configuration
and rules, has page script evaluated, and lets the engine test itself once a decision that asks for it
has completed the page.  All messages but the requests for page script are passed on.

When both a message is waiting and a task can go on, either may come first; a `Preference` says which.
-/

set_option autoImplicit false

namespace ConsentBanner

/-- Something that the host has the engine do. -/
structure Task where
  flow : Flow Unit
  /-- Its place in the order of events until it is taken up, none afterwards. -/
  waiting : Option Nat

/-- A host with its engine. -/
structure Host where
  world : World
  timings : Timings
  config : EngineConfig
  rules : RuleSet
  tasks : List Task
  /-- How many of the engine's messages were handled. -/
  handled : Nat
  /-- The engine is to test itself when the page is complete. -/
  selfTestPending : Bool
  /-- The messages that were passed on, with their times. -/
  emitted : List (Nat × Outbound)
  /-- How many steps were taken. -/
  steps : Nat

/-- Whether a waiting message comes first in a step, by the number of the step. -/
abbrev Preference : Type := Nat → Bool

namespace Host

/-- The host has the engine do one more thing. -/
def addTask (host : Host) (flow : Flow Unit) : Host :=
  { host with
    tasks := host.tasks ++ [⟨flow, some host.world.order⟩]
    world := { host.world with order := host.world.order + 1 } }

def start (world : World) (timings : Timings) (config : EngineConfig) (rules : RuleSet) : Host :=
  addTask
    { world := world, timings := timings, config := config, rules := rules, tasks := []
      handled := 0, selfTestPending := false, emitted := [], steps := 0 } Engine.announce

/-- Has page script evaluated and hands in its value; a failure reads as null. -/
def evaluate (timings : Timings) (id code : String) : Flow Unit := do
  let result := Primitive.orElse (← Flow.page (.evaluate code)) .null
  Engine.receive timings (.evalResponse id result)

/-- What the host does about a message. -/
def respond (host : Host) : Outbound → Host
  | .init _ => host.addTask (Engine.receive host.timings (.initResponse host.config host.rules))
  | .evalRequest id code => host.addTask (evaluate host.timings id code)
  | .optOutResult _ true true _ | .optInResult _ true true _ => { host with selfTestPending := true }
  | .autoconsentDone _ _ =>
    if host.selfTestPending then
      { host with selfTestPending := false }.addTask (Engine.receive host.timings .selfTest)
    else host
  | _ => host

/-- Messages that are passed on. -/
def isEmitted : Outbound → Bool
  | .evalRequest _ _ => false
  | _ => true

def handle (host : Host) (message : Outbound) : Host :=
  let host := { host with handled := host.handled + 1 }
  let host :=
    if isEmitted message then
      { host with emitted := host.emitted ++ [(host.world.clock, message)] }
    else host
  host.respond message

def message? (host : Host) : Option Outbound := host.world.sent[host.handled]?

/-- The place of a task in the order of events, if it can go on. -/
def readyAt (world : World) (task : Task) : Option Nat :=
  match task.waiting with
  | some order => some order
  | none => task.flow.readyAt world

/-- The place among the tasks of the one that comes first of those that can go on, and its place in
the order of events. -/
def firstReady (world : World) (place : Nat) : List Task → Option (Nat × Nat)
  | [] => none
  | task :: rest =>
    match readyAt world task, firstReady world (place + 1) rest with
    | some order, some (other, later) =>
      if order ≤ later then some (place, order) else some (other, later)
    | some order, none => some (place, order)
    | none, found => found

/-- A task goes on; it leaves when it is done. -/
def runTask (host : Host) (place : Nat) : Host :=
  match host.tasks[place]? with
  | none => host
  | some task =>
    let (flow, world) := task.flow.run host.world
    let tasks :=
      match flow.value? with
      | some () => host.tasks.eraseIdx place
      | none => host.tasks.set place ⟨flow, none⟩
    { host with world := world, tasks := tasks }

/-- One step: a message is handled or a task goes on.  There is none if neither is possible. -/
def step? (prefers : Preference) (host : Host) : Option Host :=
  let counted := { host with steps := host.steps + 1 }
  match host.message?, firstReady host.world 0 host.tasks with
  | none, none => none
  | some message, none => some (counted.handle message)
  | none, some (place, _) => some (counted.runTask place)
  | some message, some (place, _) =>
    some (if prefers host.steps then counted.handle message else counted.runTask place)

def nextDue (host : Host) : Option Nat :=
  host.tasks.foldl (fun due task => Flow.earlier due task.flow.nextDue) none

def apply (host : Host) (effects : List Effect) : Host :=
  { host with world := { host.world with page := host.world.page.applyAll effects } }

def atTime (host : Host) (clock : Nat) : Host :=
  { host with world := { host.world with clock := clock } }

/-- Serves until nothing is left to do, while the page changes as planned.  The number bounds how
often something happens. -/
def run (prefers : Preference) : Nat → Agenda (List Effect) → Host → Host
  | 0, _, host => host
  | fuel + 1, agenda, host =>
    match host.step? prefers with
    | some next => run prefers fuel agenda next
    | none =>
      if host.tasks.isEmpty then host
      else
        let clock := host.world.clock
        match agenda.due clock with
        | [] =>
          match Flow.earlier host.nextDue agenda.next? with
          | some due => run prefers fuel agenda (host.atTime due)
          | none => host
        | changes => run prefers fuel (agenda.after clock) (changes.foldl apply host)

end Host

end ConsentBanner

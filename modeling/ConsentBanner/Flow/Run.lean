import ConsentBanner.Flow.World

/-!
# Running flows

`Flow.run` takes a flow as far as it goes without time passing: requests are answered, and what waits
stays behind as a flow.  Flows that race are taken in the order in which what they waited for came
about; all others in the order in which they stand.  `Flow.readyAt` says whether running a flow again
would change anything, `Flow.nextDue` when it would if nothing else happens.
-/

set_option autoImplicit false

namespace ConsentBanner.Flow

def value? {α : Type} : Flow α → Option α
  | .done a => some a
  | _ => none

/-- The smaller of two numbers, where they are there. -/
def earlier : Option Nat → Option Nat → Option Nat
  | some a, some b => some (min a b)
  | some a, none => some a
  | none, b => b

mutual

/-- The place in the order of events of the first thing that a flow waited for and that has come
about; zero for a flow that does not wait. -/
def readyAt {α : Type} (world : World) : Flow α → Option Nat
  | .asleep due order _ => if due ≤ world.clock then some order else none
  | .await id _ =>
    match world.bridge.answer? id with
    | some (_, order) => some order
    | none => if world.bridge.pending.contains id then none else some 0
  | .both left right _ =>
    match left.value?.isSome, right.value?.isSome with
    | true, true => some 0
    | true, false => readyAt world right
    | false, true => readyAt world left
    | false, false => earlier (readyAt world left) (readyAt world right)
  | .first left right _ => earlier (readyAt world left) (readyAt world right)
  | .race lanes started winner _ =>
    match started, lanes with
    | true, lanes =>
      if winner.value?.isSome && !lanes.isEmpty then lanesReadyAt world lanes
      else earlier (readyAt world winner) (lanesReadyAt world lanes)
    | false, [] => some 0
    | false, lanes => lanesReadyAt world lanes
  | _ => some 0

/-- The same for the first of several flows. -/
def lanesReadyAt (world : World) : List (Flow Bool) → Option Nat
  | [] => none
  | lane :: rest => earlier (readyAt world lane) (lanesReadyAt world rest)

end

mutual

/-- The earliest time that a flow sleeps until. -/
def nextDue {α : Type} : Flow α → Option Nat
  | .asleep due _ _ => some due
  | .both left right _ => earlier (nextDue left) (nextDue right)
  | .first left right _ => earlier (nextDue left) (nextDue right)
  | .race lanes started winner _ =>
    if started then earlier (nextDue winner) (lanesNextDue lanes) else lanesNextDue lanes
  | _ => none

/-- The earliest time that one of several flows sleeps until. -/
def lanesNextDue : List (Flow Bool) → Option Nat
  | [] => none
  | lane :: rest => earlier (nextDue lane) (lanesNextDue rest)

end

mutual

/-- The requests for page script that a flow waits for. -/
def awaited {α : Type} : Flow α → List String
  | .await id _ => [id]
  | .both left right _ => awaited left ++ awaited right
  | .first left right _ => awaited left ++ awaited right
  | .race lanes started winner _ =>
    if started then awaited winner ++ lanesAwaited lanes else lanesAwaited lanes
  | _ => []

/-- The requests for page script that several flows wait for. -/
def lanesAwaited : List (Flow Bool) → List String
  | [] => []
  | lane :: rest => awaited lane ++ lanesAwaited rest

end

abbrev Runner : Type 1 := World → Flow Bool × World

/-- A flow in a race, with its place among the others and how it is taken further. -/
structure Lane where
  place : Nat
  flow : Flow Bool
  run : Runner

/-- Puts a lane behind those that are not later in the order of events. -/
def insertLane (order : Nat) (lane : Lane) : List (Nat × Lane) → List (Nat × Lane)
  | [] => [(order, lane)]
  | entry :: rest =>
    if order < entry.1 then (order, lane) :: entry :: rest else entry :: insertLane order lane rest

/-- The lanes that can be taken further, in the order of events. -/
def readyLanes (world : World) (lanes : List Lane) : List Lane :=
  (lanes.foldl
    (fun sorted lane =>
      match lane.flow.readyAt world with
      | some order => insertLane order lane sorted
      | none => sorted) []).map Prod.snd

structure Race where
  /-- The lanes that were taken further, as they are now, each with its place. -/
  moved : List (Nat × Flow Bool)
  started : Bool
  winner : Flow Bool
  world : World

/-- Takes lanes further, one after the other.  The first that comes to true lets the winner start. -/
def runLanes (runWinner : Runner) : List Lane → Race → Race
  | [], state => state
  | lane :: rest, state =>
    let (flow, world) := lane.run state.world
    let moved := state.moved ++ [(lane.place, flow)]
    match flow.value?, state.started with
    | some true, false =>
      let (winner, world) := runWinner world
      runLanes runWinner rest ⟨moved, true, winner, world⟩
    | _, _ => runLanes runWinner rest { state with moved := moved, world := world }

/-- The lanes that are not done, as they are after some were taken further. -/
def remaining (moved : List (Nat × Flow Bool)) (lanes : List Lane) : List (Flow Bool) :=
  (lanes.map fun lane =>
    match moved.find? fun entry => entry.1 = lane.place with
    | some (_, flow) => flow
    | none => lane.flow).filter fun flow => flow.value?.isNone

mutual

/-- Takes a flow as far as it goes without time passing. -/
def run {α : Type} : Flow α → World → Flow α × World
  | .done value, world => (.done value, world)
  | .ask request next, world =>
    let (answer, world) := world.answer request
    run (next answer) world
  | .sleep time next, world =>
    if time = 0 then run next world
    else
      (.asleep (world.clock + time) world.order next, { world with order := world.order + 1 })
  | .asleep due order next, world =>
    if due ≤ world.clock then run next world else (.asleep due order next, world)
  | .await id next, world =>
    match world.bridge.answer? id with
    | some (value, _) => run (next (some value)) (world.forget [id])
    | none =>
      if world.bridge.pending.contains id then (.await id next, world) else run (next none) world
  | .both left right next, world =>
    let (left, world) := run left world
    let (right, world) := run right world
    match left.value?, right.value? with
    | some a, some b => run (next a b) world
    | _, _ => (.both left right next, world)
  | .first left right next, world =>
    let (left, world) := run left world
    match left.value? with
    | some a => run (next a) (world.forget right.awaited)
    | none =>
      let (right, world) := run right world
      match right.value? with
      | some b => run (next b) (world.forget left.awaited)
      | none => (.first left right next, world)
  | .race lanes started winner next, world =>
    let runWinner := run winner
    let (winner, world) := if started then runWinner world else (winner, world)
    let entries := lanesFrom 0 lanes
    let after := runLanes runWinner (readyLanes world entries) ⟨[], started, winner, world⟩
    match remaining after.moved entries, after.started, after.winner.value? with
    | [], false, _ => run (next none) after.world
    | [], true, some value => run (next (some value)) after.world
    | left, started, _ => (.race left started after.winner next, after.world)

def lanesFrom (place : Nat) : List (Flow Bool) → List Lane
  | [] => []
  | flow :: rest => ⟨place, flow, run flow⟩ :: lanesFrom (place + 1) rest

end

end ConsentBanner.Flow

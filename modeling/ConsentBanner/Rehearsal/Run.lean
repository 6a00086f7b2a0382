import ConsentBanner.Rehearsal.Basic

/-!
# Running acts

An act of a rehearsal is a flow, something done to the page from outside at once, or several acts side
by side.  `Rehearsal.play` runs an act to its end.
-/

set_option autoImplicit false

namespace ConsentBanner

/-- Something that is done in a rehearsal. -/
inductive Act (α : Type) : Type 1 where
  | flow (flow : Flow α)
  /-- Something seen of the page or done to it from outside. -/
  | stage (act : Snapshot → α × Snapshot)
  /-- Acts side by side.  Their values, each with the time at which it was there, make up the value. -/
  | together (acts : List (Act α)) (gather : List (α × Nat) → α)

def Flow.timed {α : Type} (flow : Flow α) : Flow (α × Nat) := do
  let value ← flow
  return (value, ← Flow.request .clock)

mutual

/-- An act as far as it goes at once. -/
def Act.begin {α : Type} (world : World) : Act α → Flow α × World
  | .flow flow => flow.run world
  | .stage act =>
    let (value, page) := act world.page
    (.done value, { world with page := page })
  | .together acts gather =>
    let (flows, world) := beginAll world acts
    (do return gather (← Flow.all flows), world)

/-- Acts, one after the other, as far as they go at once. -/
def beginAll {α : Type} (world : World) : List (Act α) → List (Flow (α × Nat)) × World
  | [] => ([], world)
  | act :: rest =>
    let (flow, world) := act.begin world
    let (flow, world) := flow.timed.run world
    let (flows, world) := beginAll world rest
    (flow :: flows, world)

end

namespace Rehearsal

/-- Runs a flow to its end, with a bound on how often it is taken further.  There is no value if the
flow waits for what never comes. -/
def playFlow {α : Type} : Nat → Rehearsal → Flow α → Option α × Rehearsal
  | 0, rehearsal, _ => (none, rehearsal)
  | fuel + 1, rehearsal, flow =>
    let (flow, world) := flow.run rehearsal.world
    let rehearsal := { rehearsal with world := world }
    match flow.value? with
    | some value => (some value, rehearsal)
    | none =>
      let rehearsal := rehearsal.hearAll
      if (flow.readyAt rehearsal.world).isSome then playFlow fuel rehearsal flow
      else if !(rehearsal.agenda.due rehearsal.world.clock).isEmpty then
        playFlow fuel rehearsal.catchUp flow
      else
        match Flow.earlier flow.nextDue rehearsal.agenda.next? with
        | some due => playFlow fuel (rehearsal.atTime due) flow
        | none => (none, rehearsal)

/-- How often an act may be taken further. -/
def patience : Nat := Nat.pow 2 62

/-- Runs an act to its end. -/
def play {α : Type} (rehearsal : Rehearsal) (act : Act α) : Option α × Rehearsal :=
  let (flow, world) := act.begin rehearsal.world
  playFlow patience { rehearsal with world := world } flow

end Rehearsal

end ConsentBanner

import ConsentBanner.Flow.Run
import ConsentBanner.Rehearsal.Agenda

/-!
# Rehearsals

A rehearsal is a page with an engine in it and a plan of what will happen to it: changes of the page,
each at its time, and how requests for page script are answered.  While something in the rehearsal
waits, the host answers the requests that were sent; when nothing can go on, the time moves to the
next thing that is due.
-/

set_option autoImplicit false

namespace ConsentBanner

/-- How the host answers a request for page script. -/
inductive Reply where
  | never
  /-- With a value, after a time or at once, once or twice. -/
  | value (value : Json) (delay : Option Nat) (twice : Bool)

/-- Something that happens in a rehearsal at a time of its own. -/
inductive Occurrence where
  | effects (effects : List Effect)
  /-- The host hands in the value of page script. -/
  | answer (id : String) (value : Json)

/-- A page with an engine in it and a plan of what will happen. -/
structure Rehearsal where
  world : World
  agenda : Agenda Occurrence
  /-- How requests are answered, by their code; others are answered by the page. -/
  replies : Keyed String Reply
  /-- Somebody answers requests. -/
  hasHost : Bool
  /-- How many messages the host has seen. -/
  seen : Nat
  /-- The answers of the host, each with whether it was taken. -/
  answered : List (String × Bool)

namespace Rehearsal

/-- A rehearsal in which nothing happened yet. -/
def start (world : World) (timeline : List (Nat × List Effect)) (replies : Keyed String Reply)
    (hasHost : Bool) : Rehearsal :=
  { world := world
    agenda := .ofList (timeline.map fun entry => (entry.1, .effects entry.2))
    replies := replies, hasHost := hasHost, seen := 0, answered := [] }

/-- The host hands in the value of page script. -/
def give (rehearsal : Rehearsal) (id : String) (value : Json) : Rehearsal :=
  let (taken, world) := rehearsal.world.resolve id value
  { rehearsal with world := world, answered := rehearsal.answered ++ [(id, taken)] }

/-- Something happens. -/
def perform (rehearsal : Rehearsal) : Occurrence → Rehearsal
  | .effects effects =>
    { rehearsal with
      world := { rehearsal.world with page := rehearsal.world.page.applyAll effects } }
  | .answer id value => rehearsal.give id value

/-- Something happens after a time, or at once. -/
def schedule (rehearsal : Rehearsal) (delay : Option Nat) (what : Occurrence) : Rehearsal :=
  match delay with
  | none => rehearsal.perform what
  | some time =>
    { rehearsal with agenda := rehearsal.agenda.add (rehearsal.world.clock + time) what }

/-- The page answers a request for page script; a failure reads as false. -/
def giveFromPage (rehearsal : Rehearsal) (id code : String) : Rehearsal :=
  let (reply, page) := rehearsal.world.page.perform (.evaluate code)
  let rehearsal := { rehearsal with world := { rehearsal.world with page := page } }
  match reply with
  | .ok value => rehearsal.give id value
  | .error _ => rehearsal.give id (.bool false)

/-- The host answers a request for page script. -/
def serve (rehearsal : Rehearsal) (id code : String) : Rehearsal :=
  match rehearsal.replies.get? code with
  | none => rehearsal.giveFromPage id code
  | some .never => rehearsal
  | some (.value value delay twice) =>
    let rehearsal := rehearsal.schedule delay (.answer id value)
    if twice then rehearsal.schedule delay (.answer id value) else rehearsal

/-- The host sees a message. -/
def hear (rehearsal : Rehearsal) : Outbound → Rehearsal
  | .evalRequest id code => if rehearsal.hasHost then rehearsal.serve id code else rehearsal
  | _ => rehearsal

/-- The host sees the messages that it has not seen yet. -/
def hearAll (rehearsal : Rehearsal) : Rehearsal :=
  (rehearsal.world.sent.drop rehearsal.seen).foldl hear
    { rehearsal with seen := rehearsal.world.sent.length }

/-- What has become due happens. -/
def catchUp (rehearsal : Rehearsal) : Rehearsal :=
  let clock := rehearsal.world.clock
  (rehearsal.agenda.due clock).foldl perform
    { rehearsal with agenda := rehearsal.agenda.after clock }

def atTime (rehearsal : Rehearsal) (clock : Nat) : Rehearsal :=
  { rehearsal with world := { rehearsal.world with clock := clock } }

end Rehearsal

end ConsentBanner

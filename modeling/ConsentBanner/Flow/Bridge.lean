import ConsentBanner.Json.Value
import ConsentBanner.Keyed

/-!
# Requests for page script

The table of the requests that are open.  Each has a number of its own, and an answer that is taken
once; an answer to anything else is refused.
-/

set_option autoImplicit false

namespace ConsentBanner

/-- Requests for page script. -/
structure Bridge where
  /-- How many requests there were. -/
  opened : Nat
  /-- The requests that are open, in order. -/
  pending : List String
  /-- Answers that nobody has taken yet, each with its place in the order of events. -/
  answers : Keyed String (Json × Nat)

namespace Bridge

def empty : Bridge := ⟨0, [], []⟩

def nextId (bridge : Bridge) : String := "e" ++ toString (bridge.opened + 1)

/-- The table with one more request. -/
def openNext (bridge : Bridge) : Bridge :=
  { bridge with opened := bridge.opened + 1, pending := bridge.pending ++ [bridge.nextId] }

/-- Hands in an answer: says whether the request is open, which it is not any more afterwards. -/
def resolve (bridge : Bridge) (id : String) (value : Json) (order : Nat) : Bool × Bridge :=
  if bridge.pending.contains id then
    (true,
      { bridge with
        pending := bridge.pending.filter fun other => other ≠ id
        answers := bridge.answers.put id (value, order) })
  else (false, bridge)

/-- The answer to a request, if there is one. -/
def answer? (bridge : Bridge) (id : String) : Option (Json × Nat) := bridge.answers.get? id

/-- The table without some requests and what was answered to them. -/
def forget (bridge : Bridge) (ids : List String) : Bridge :=
  { bridge with
    pending := bridge.pending.filter fun id => !ids.contains id
    answers := bridge.answers.filter fun entry => !ids.contains entry.1 }

end Bridge

end ConsentBanner

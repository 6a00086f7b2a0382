import ConsentBanner.Json.Decode
import ConsentBanner.Rehearsal.Basic

/-!
# Reading what a rehearsal is made of

Pages, their changes, the host's answers and scripted handlers, all written as JSON objects.  Members
that are missing or of another kind are left out, so that most of these readers cannot fail.
-/

set_option autoImplicit false

namespace ConsentBanner

open Json (DecodeError)

/-- The change of a page that a member of an object describes. -/
def Effect.ofMember? (member : String × Json) : Option Effect :=
  let (name, value) := member
  match name with
  | "remove" => value.asString?.map .remove
  | "show" => value.asString?.map .show
  | "hide" => value.asString?.map .hide
  | "cookie" => value.asString?.map .cookie
  | "ready" => value.asString?.map .ready
  | "url" => value.asString?.map .url
  | "script" => some (.scripts value.members)
  | "fail" => some (.fail value.texts)
  | "heal" => some (.heal value.texts)
  | _ => none

/-- The changes that a list of objects describes, member by member. -/
def Effect.readAll (value : Json) : List Effect :=
  value.elements.flatMap fun effect => effect.members.filterMap Effect.ofMember?

/-- Changes with their times. -/
def readTimeline (value : Json) : List (Nat × List Effect) :=
  value.elements.map fun entry =>
    (((entry.field "at").asNat?).getD 0, Effect.readAll (entry.field "do"))

def Reply.read (value : Json) : Reply :=
  if (value.field "never").isTrue then .never
  else .value (value.field "value") (value.field "delay").asNat? (value.field "twice").isTrue

def Snapshot.addHook (page : Snapshot) (value : Json) : Except PageError Snapshot :=
  page.onClick ((value.field "on").asString?.getD "") (Effect.readAll (value.field "do"))

/-- A page.  It fails if effects are to follow clicks on what is no selector. -/
def Snapshot.read (value : Json) : Except PageError Snapshot :=
  let text? (key : String) : Option String := (value.field key).asString?
  let page := Snapshot.ofText ((text? "html").getD "")
  (value.field "hooks").elements.foldlM Snapshot.addHook
    { page with
      url := (text? "url").getD page.url
      topFrame := !(value.field "frame").isTrue
      cookie := (text? "cookie").getD page.cookie
      readyState := (text? "ready").getD page.readyState
      scripts := (value.field "scripts").members
      failing := (value.field "fail").texts }

/-- An outcome, with a bound on how deep it is nested. -/
def Outcome.readWith : Nat → Json → Outcome
  | _, .bool value => .reply value
  | _, .string message => .failure message
  | 0, _ => .reply true
  | fuel + 1, value =>
    let inner := readWith fuel (value.field "value")
    match (value.field "delay").asNat? with
    | some time => .delayed time inner
    | none => inner

def Outcome.readAll (value : Json) : List Outcome :=
  let read (value : Json) : Outcome := readWith value.height value
  match value with
  | .null => []
  | .array outcomes => outcomes.map read
  | outcome => [read outcome]

def ScriptedHandler.read (name : String) (value : Json) : Except DecodeError ScriptedHandler := do
  let context ← match value.field "context" with
    | .null => pure RunContext.topFrameOnly
    | context => RunContext.decode .direct context
  return ⟨name, context, (value.field "prehide").texts, (value.field "intermediate").isTrue,
    (value.field "selfTest").isTrue, (value.field "minimal").isTrue,
    fun routine => Outcome.readAll (value.field routine.text)⟩

end ConsentBanner

import ConsentBanner.Flow.World

/-!
# Turns of a flow

What flows leave behind themselves is a ledger: the state of the engine, the messages, the memories of handlers,
their calls and the journal.  Page, host and clock belong to the surroundings.  `Ledger.MayReply` says what can come of
a request if the surroundings may reply anything; `World.answer_mayReply` that every world replies so.

A flow gives way wherever it calls the page, sleeps, waits for an answer or has others run side by side.
From one such place to the next it goes on by itself: a `Burst`.  A `Turn` is one burst of a flow or of
one of the flows it runs side by side, whichever that is, after page, host and clock have replied
anything and whenever they like.  What holds after all turns therefore holds for every page and every
order of events.

A flow that goes on as another one takes the turns of the first and then those of the second:
`Turns.ofBind` finds the ledger at which the first one ended.
-/

set_option autoImplicit false

namespace ConsentBanner

/-! ## The ledger of a world -/

/-- The part of a world that only flows change. -/
structure Ledger where
  engine : EngineState
  sent : List Outbound
  memories : Keyed Nat Memory
  calls : List HandlerCall
  journal : List JournalEntry

def World.ledger (world : World) : Ledger :=
  ⟨world.engine, world.sent, world.memories, world.calls, world.journal⟩

namespace Ledger

def send (ledger : Ledger) (message : Outbound) : Ledger :=
  { ledger with sent := ledger.sent ++ [message] }

def update (ledger : Ledger) (change : EngineState → EngineState) : Ledger :=
  { ledger with engine := change ledger.engine }

/-- What a handler remembers. -/
def memory (ledger : Ledger) (slot : Nat) : Memory := (ledger.memories.get? slot).getD .blank

def remember (ledger : Ledger) (slot : Nat) (change : Memory → Memory) : Ledger :=
  { ledger with memories := ledger.memories.put slot (change (ledger.memory slot)) }

/-- How often a scripted routine was called. -/
def callsOf (ledger : Ledger) (call : HandlerCall) : Nat :=
  (ledger.calls.filter fun c => c.slot = call.slot && c.routine = call.routine).length

/-- The ledger with one more call of a scripted routine. -/
def note (ledger : Ledger) (call : HandlerCall) : Ledger :=
  { ledger with calls := ledger.calls ++ [call] }

/-- The ledger with one more entry in the journal. -/
def record (ledger : Ledger) (entry : JournalEntry) : Ledger :=
  { ledger with journal := ledger.journal ++ [entry] }

/-- What can come of a request: a reply and the ledger after it.  Page, host and clock may reply
anything. -/
def MayReply (ledger : Ledger) : {β : Type} → Request β → β → Ledger → Prop
  | _, .page _, _, after => after = ledger
  | _, .send message, _, after => after = ledger.send message
  | _, .openEval code, id, after => after = ledger.send (.evalRequest id code)
  | _, .resolve _ _, _, after => after = ledger
  | _, .openCount, _, after => after = ledger
  | _, .state, reply, after => reply = ledger.engine ∧ after = ledger
  | _, .update change, _, after => after = ledger.update change
  | _, .memory slot, reply, after => reply = ledger.memory slot ∧ after = ledger
  | _, .remember slot change, _, after => after = ledger.remember slot change
  | _, .note call, reply, after => reply = ledger.callsOf call ∧ after = ledger.note call
  | _, .record entry, _, after => after = ledger.record entry
  | _, .clock, _, after => after = ledger

def upon (ledger : Ledger) : {β : Type} → Request β → β → Ledger
  | _, .send message, _ => ledger.send message
  | _, .openEval code, id => ledger.send (.evalRequest id code)
  | _, .update change, _ => ledger.update change
  | _, .remember slot change, _ => ledger.remember slot change
  | _, .note call, _ => ledger.note call
  | _, .record entry, _ => ledger.record entry
  | _, _, _ => ledger

/-- Replies may differ, but not what becomes of the ledger upon them. -/
theorem MayReply.eq_upon {β : Type} {request : Request β} {reply : β} {before after : Ledger}
    (replied : before.MayReply request reply after) : after = before.upon request reply := by
  cases request with
  | state | memory _ | note _ => exact replied.2
  | _ => exact replied

end Ledger

theorem World.answer_mayReply {β : Type} (world : World) (request : Request β) :
    world.ledger.MayReply request (world.answer request).1 (world.answer request).2.ledger := by
  cases request <;> simp [World.answer, Ledger.MayReply, World.ledger, World.openEval, World.send,
    World.resolve, World.memory, World.callsOf, Ledger.send, Ledger.update, Ledger.memory,
    Ledger.remember, Ledger.callsOf, Ledger.note, Ledger.record]

/-! ## Turns -/

/-- Only calls to the page let others go on meanwhile. -/
def Request.givesWay : {β : Type} → Request β → Bool
  | _, .page _ => true
  | _, _ => false

namespace Flow

/-- A flow is at a place where others may go on. -/
def givesWay {α : Type} : Flow α → Bool
  | .ask request _ => request.givesWay
  | _ => true

/-- A flow goes on by itself up to the next place where it gives way. -/
inductive Burst : {α : Type} → Flow α → Ledger → Flow α → Ledger → Prop where
  | rest {α : Type} {flow : Flow α} (ledger : Ledger) (waits : flow.givesWay = true) :
      Burst flow ledger flow ledger
  | ask {α β : Type} {request : Request β} {next : β → Flow α} {reply : β} {flow : Flow α}
      {before between after : Ledger} (goesOn : request.givesWay = false)
      (replied : before.MayReply request reply between)
      (onward : Burst (next reply) between flow after) :
      Burst (.ask request next) before flow after

/-- A flow takes one turn. -/
inductive Turn : {α : Type} → Flow α → Ledger → Flow α → Ledger → Prop where
  | start {α : Type} {flow after : Flow α} {before later : Ledger}
      (goesOn : flow.givesWay = false) (burst : Burst flow before after later) :
      Turn flow before after later
  | page {α β : Type} {call : PageCall β} {next : Except PageError β → Flow α} {after : Flow α}
      {before later : Ledger} (reply : Except PageError β)
      (burst : Burst (next reply) before after later) :
      Turn (.ask (.page call) next) before after later
  | lieDown {α : Type} {next : Flow α} (ledger : Ledger) (time due order : Nat) :
      Turn (.sleep time next) ledger (.asleep due order next) ledger
  | skip {α : Type} {next after : Flow α} {before later : Ledger} (time : Nat)
      (burst : Burst next before after later) : Turn (.sleep time next) before after later
  | wake {α : Type} {next after : Flow α} {before later : Ledger} (due order : Nat)
      (burst : Burst next before after later) : Turn (.asleep due order next) before after later
  | answered {α : Type} {id : String} {next : Option Json → Flow α} {after : Flow α}
      {before later : Ledger} (reply : Option Json) (burst : Burst (next reply) before after later) :
      Turn (.await id next) before after later
  | left {α β γ : Type} {left moved : Flow β} {right : Flow γ} {next : β → γ → Flow α}
      {before later : Ledger} (turn : Turn left before moved later) :
      Turn (.both left right next) before (.both moved right next) later
  | right {α β γ : Type} {left : Flow β} {right moved : Flow γ} {next : β → γ → Flow α}
      {before later : Ledger} (turn : Turn right before moved later) :
      Turn (.both left right next) before (.both left moved next) later
  | join {α β γ : Type} {a : β} {b : γ} {next : β → γ → Flow α} {after : Flow α}
      {before later : Ledger} (burst : Burst (next a b) before after later) :
      Turn (.both (.done a) (.done b) next) before after later
  | either {α β : Type} {left right moved : Flow β} {next : β → Flow α} {before later : Ledger}
      (turn : Turn left before moved later) :
      Turn (.first left right next) before (.first moved right next) later
  | other {α β : Type} {left right moved : Flow β} {next : β → Flow α} {before later : Ledger}
      (turn : Turn right before moved later) :
      Turn (.first left right next) before (.first left moved next) later
  | leftFirst {α β : Type} {a : β} {right : Flow β} {next : β → Flow α} {after : Flow α}
      {before later : Ledger} (burst : Burst (next a) before after later) :
      Turn (.first (.done a) right next) before after later
  | rightFirst {α β : Type} {left : Flow β} {b : β} {next : β → Flow α} {after : Flow α}
      {before later : Ledger} (burst : Burst (next b) before after later) :
      Turn (.first left (.done b) next) before after later
  | lane {α : Type} {ahead behind : List (Flow Bool)} {lane moved : Flow Bool} {started : Bool}
      {winner : Flow Bool} {next : Option Bool → Flow α} {before later : Ledger}
      (turn : Turn lane before moved later) :
      Turn (.race (ahead ++ lane :: behind) started winner next) before
        (.race (ahead ++ moved :: behind) started winner next) later
  | win {α : Type} {lanes : List (Flow Bool)} {winner : Flow Bool} {next : Option Bool → Flow α}
      (ledger : Ledger) (won : .done true ∈ lanes) :
      Turn (.race lanes false winner next) ledger (.race lanes true winner next) ledger
  | leave {α : Type} {ahead behind : List (Flow Bool)} {value started : Bool} {winner : Flow Bool}
      {next : Option Bool → Flow α} (ledger : Ledger) (noticed : value = true → started = true) :
      Turn (.race (ahead ++ .done value :: behind) started winner next) ledger
        (.race (ahead ++ behind) started winner next) ledger
  | winner {α : Type} {lanes : List (Flow Bool)} {winner moved : Flow Bool}
      {next : Option Bool → Flow α} {before later : Ledger} (turn : Turn winner before moved later) :
      Turn (.race lanes true winner next) before (.race lanes true moved next) later
  | lost {α : Type} {winner : Flow Bool} {next : Option Bool → Flow α} {after : Flow α}
      {before later : Ledger} (burst : Burst (next none) before after later) :
      Turn (.race [] false winner next) before after later
  | decided {α : Type} {value : Bool} {next : Option Bool → Flow α} {after : Flow α}
      {before later : Ledger} (burst : Burst (next (some value)) before after later) :
      Turn (.race [] true (.done value) next) before after later

/-- A flow takes any number of turns. -/
inductive Turns {α : Type} : Flow α → Ledger → Flow α → Ledger → Prop where
  | refl (flow : Flow α) (ledger : Ledger) : Turns flow ledger flow ledger
  | head {flow between after : Flow α} {before middle later : Ledger}
      (turn : Turn flow before between middle) (rest : Turns between middle after later) :
      Turns flow before after later

theorem Turns.single {α : Type} {flow after : Flow α} {before later : Ledger}
    (turn : Turn flow before after later) : Turns flow before after later :=
  .head turn (.refl _ _)

theorem Turns.trans {α : Type} {flow between after : Flow α} {before middle later : Ledger}
    (first : Turns flow before between middle) (second : Turns between middle after later) :
    Turns flow before after later := by
  induction first with
  | refl => exact second
  | head turn _ ih => exact .head turn (ih second)

/-- What is done side by side can be done by the flows' parent. -/
theorem Turns.lift {α β : Type} {frame : Flow α → Flow β}
    (frames : ∀ {flow after : Flow α} {before later : Ledger}, Turn flow before after later →
      Turn (frame flow) before (frame after) later)
    {flow after : Flow α} {before later : Ledger} (turns : Turns flow before after later) :
    Turns (frame flow) before (frame after) later := by
  induction turns with
  | refl => exact .refl _ _
  | head turn _ ih => exact .head (frames turn) ih

theorem Burst.givesWay {α : Type} {flow after : Flow α} {before later : Ledger}
    (burst : Burst flow before after later) : after.givesWay = true := by
  induction burst with
  | rest _ waits => exact waits
  | ask _ _ _ ih => exact ih

theorem Burst.turns {α : Type} {flow after : Flow α} {before later : Ledger} (burst : Burst flow before after later) :
    Turns flow before after later := by
  cases ready : flow.givesWay with
  | false => exact .single (.start ready burst)
  | true =>
      cases burst with
      | rest => exact .refl _ _
      | ask goesOn _ _ => exact absurd (ready.symm.trans goesOn) nofun

/-! ## Turns of flows in sequence -/

variable {α β : Type}

/-- A burst of two flows in sequence stays within the first or reaches the second. -/
theorem Burst.ofBind {f : α → Flow β} : ∀ {flow : Flow α} {after : Flow β} {before later : Ledger},
    Burst (flow.bind f) before after later →
      (∃ moved, Burst flow before moved later ∧ after = moved.bind f) ∨
        ∃ value middle, Burst flow before (.done value) middle ∧ Burst (f value) middle after later
  | .done value, _, before, _, burst => .inr ⟨value, before, .rest before rfl, burst⟩
  | .ask request next, _, _, _, burst => by
      generalize whole : (Flow.ask request next).bind f = both at burst
      cases burst with
      | rest _ waits =>
          subst whole
          exact .inl ⟨.ask request next, .rest _ waits, rfl⟩
      | ask goesOn replied onward =>
          simp only [Flow.bind] at whole
          cases whole
          rcases ofBind onward with ⟨moved, within, is⟩ | ⟨value, middle, within, beyond⟩
          · exact .inl ⟨moved, .ask goesOn replied within, is⟩
          · exact .inr ⟨value, middle, .ask goesOn replied within, beyond⟩
  | .sleep time next, _, _, _, burst => by
      cases burst
      exact .inl ⟨.sleep time next, .rest _ rfl, rfl⟩
  | .asleep due order next, _, _, _, burst => by
      cases burst
      exact .inl ⟨.asleep due order next, .rest _ rfl, rfl⟩
  | .await id next, _, _, _, burst => by
      cases burst
      exact .inl ⟨.await id next, .rest _ rfl, rfl⟩
  | .both left right next, _, _, _, burst => by
      cases burst
      exact .inl ⟨.both left right next, .rest _ rfl, rfl⟩
  | .first left right next, _, _, _, burst => by
      cases burst
      exact .inl ⟨.first left right next, .rest _ rfl, rfl⟩
  | .race lanes started winner next, _, _, _, burst => by
      cases burst
      exact .inl ⟨.race lanes started winner next, .rest _ rfl, rfl⟩

theorem Burst.afterTurn {f : α → Flow β} {flow next : Flow α} {after : Flow β}
    {before later : Ledger} (burst : Burst (next.bind f) before after later)
    (turn : ∀ {moved : Flow α} {middle : Ledger}, Burst next before moved middle →
      Turn flow before moved middle) :
    (∃ moved, Turn flow before moved later ∧ after = moved.bind f) ∨
      ∃ value middle, Turns flow before (.done value) middle ∧ Turns (f value) middle after later := by
  rcases burst.ofBind with ⟨moved, within, is⟩ | ⟨value, middle, within, beyond⟩
  · exact .inl ⟨moved, turn within, is⟩
  · exact .inr ⟨value, middle, .single (turn within), beyond.turns⟩

/-- A turn of two flows in sequence is one of the first or reaches the second. -/
theorem Turn.ofBind {f : α → Flow β} {flow : Flow α} {after : Flow β} {before later : Ledger}
    (turn : Turn (flow.bind f) before after later) :
    (∃ moved, Turn flow before moved later ∧ after = moved.bind f) ∨
      ∃ value middle, Turns flow before (.done value) middle ∧ Turns (f value) middle after later := by
  cases flow with
  | done value => exact .inr ⟨value, before, .refl _ _, .single turn⟩
  | ask request next =>
      generalize whole : (Flow.ask request next).bind f = both at turn
      cases turn with
      | start goesOn burst =>
          subst whole
          exact burst.afterTurn fun within => .start goesOn within
      | page reply burst =>
          simp only [Flow.bind] at whole
          cases whole
          exact burst.afterTurn fun within => .page reply within
      | _ => cases whole
  | sleep time next =>
      cases turn with
      | start goesOn _ => cases goesOn
      | lieDown _ _ due order => exact .inl ⟨.asleep due order next, .lieDown _ _ due order, rfl⟩
      | skip _ burst => exact burst.afterTurn fun within => .skip time within
  | asleep due order next =>
      cases turn with
      | start goesOn _ => cases goesOn
      | wake _ _ burst => exact burst.afterTurn fun within => .wake due order within
  | await id next =>
      cases turn with
      | start goesOn _ => cases goesOn
      | answered reply burst => exact burst.afterTurn fun within => .answered reply within
  | both left right next =>
      cases turn with
      | start goesOn _ => cases goesOn
      | left turn => exact .inl ⟨_, .left turn, rfl⟩
      | right turn => exact .inl ⟨_, .right turn, rfl⟩
      | join burst => exact burst.afterTurn fun within => .join within
  | first left right next =>
      cases turn with
      | start goesOn _ => cases goesOn
      | either turn => exact .inl ⟨_, .either turn, rfl⟩
      | other turn => exact .inl ⟨_, .other turn, rfl⟩
      | leftFirst burst => exact burst.afterTurn fun within => .leftFirst within
      | rightFirst burst => exact burst.afterTurn fun within => .rightFirst within
  | race lanes started winner next =>
      cases turn with
      | start goesOn _ => cases goesOn
      | lane turn => exact .inl ⟨_, .lane turn, rfl⟩
      | win _ won => exact .inl ⟨_, .win _ won, rfl⟩
      | leave _ noticed => exact .inl ⟨_, .leave _ noticed, rfl⟩
      | winner turn => exact .inl ⟨_, .winner turn, rfl⟩
      | lost burst => exact burst.afterTurn fun within => .lost within
      | decided burst => exact burst.afterTurn fun within => .decided within

/-- The turns of two flows in sequence are those of the first and then, if it ends, of the second. -/
theorem Turns.ofBind {f : α → Flow β} {flow : Flow α} {after : Flow β} {before later : Ledger}
    (turns : Turns (flow.bind f) before after later) :
    (∃ moved, Turns flow before moved later ∧ after = moved.bind f) ∨
      ∃ value middle, Turns flow before (.done value) middle ∧ Turns (f value) middle after later := by
  generalize whole : flow.bind f = both at turns
  induction turns generalizing flow with
  | refl _ ledger => exact .inl ⟨flow, .refl _ _, whole.symm⟩
  | head turn rest ih =>
      subst whole
      rcases turn.ofBind with ⟨moved, first, rfl⟩ | ⟨value, middle, first, beyond⟩
      · rcases ih rfl with ⟨last, others, is⟩ | ⟨value, middle, others, beyond⟩
        · exact .inl ⟨last, .head first others, is⟩
        · exact .inr ⟨value, middle, .head first others, beyond⟩
      · exact .inr ⟨value, middle, first, beyond.trans rest⟩

/-- When two flows in sequence are done, so was the first one at some time. -/
theorem Turns.split {f : α → Flow β} {flow : Flow α} {result : β} {before later : Ledger}
    (turns : Turns (flow.bind f) before (.done result) later) :
    ∃ value middle, Turns flow before (.done value) middle ∧
      Turns (f value) middle (.done result) later := by
  rcases turns.ofBind with ⟨moved, first, is⟩ | reached
  · cases moved with
    | done value => exact ⟨value, later, first, is ▸ .refl _ _⟩
    | _ => cases is
  · exact reached

end Flow

end ConsentBanner

import ConsentBanner.Engine.Detection
import ConsentBanner.Proofs.Flow.Running
import ConsentBanner.Proofs.Handler.Quiet

/-!
# Schedules of scripted handlers

How long a scripted handler takes to answer, and after what time the wait for its dialog comes to true,
is settled by its script alone.

A flow that does nothing but sleep, note its own calls and keep a journal takes as long as its sleeps,
whatever else goes on.  `Lasts.run` says that a run at its time brings such a flow further on its way,
`Lasts.elapse` that time may pass as long as it wakes in time.
-/

set_option autoImplicit false

namespace ConsentBanner

/-! ## Flows that only take time -/

def HandlerCall.Apart (one two : HandlerCall) : Prop :=
  one.slot ≠ two.slot ∨ one.routine ≠ two.routine

namespace Flow

variable {α β : Type}

/-- Left to itself from a time on and after so many calls of its own, a flow comes to a value at a time
and after so many calls. -/
inductive Lasts (own : HandlerCall) : {α : Type} → Flow α → Nat → Nat → α → Nat → Nat → Prop where
  | done {α : Type} (value : α) (clock calls : Nat) : Lasts own (.done value) clock calls value clock calls
  | record {α : Type} {entry : JournalEntry} {next : Unit → Flow α} {clock calls last count : Nat} {value : α}
      (onward : Lasts own (next ()) clock calls value last count) :
      Lasts own (.ask (.record entry) next) clock calls value last count
  | note {α : Type} {next : Nat → Flow α} {clock calls last count : Nat} {value : α}
      (onward : Lasts own (next calls) clock (calls + 1) value last count) :
      Lasts own (.ask (.note own) next) clock calls value last count
  | sleep {α : Type} {time : Nat} {next : Flow α} {clock calls last count : Nat} {value : α}
      (onward : Lasts own next (clock + time) calls value last count) :
      Lasts own (.sleep time next) clock calls value last count
  | asleep {α : Type} {due order : Nat} {next : Flow α} {clock calls last count : Nat} {value : α}
      (early : clock ≤ due) (onward : Lasts own next due calls value last count) :
      Lasts own (.asleep due order next) clock calls value last count

/-- Meanwhile the engine and the counts of all other calls stay as they are. -/
structure Aside (own : HandlerCall) (before after : World) : Prop where
  engine : after.engine = before.engine
  others : ∀ call, call.Apart own → after.callsOf call = before.callsOf call

theorem Aside.refl (own : HandlerCall) (world : World) : Aside own world world := ⟨rfl, fun _ _ => rfl⟩

namespace Lasts

variable {own : HandlerCall} {flow : Flow α} {clock calls last count : Nat} {value : α}

theorem late (lasts : Lasts own flow clock calls value last count) : clock ≤ last := by
  induction lasts with
  | done => exact Nat.le_refl _
  | record _ ih => exact ih
  | note _ ih => exact ih
  | sleep _ ih => exact Nat.le_of_add_right_le ih
  | asleep early _ ih => exact Nat.le_trans early ih

theorem bind {f : α → Flow β} {after end_ : Nat} {result : β}
    (lasts : Lasts own flow clock calls value last count)
    (onward : Lasts own (f value) last count result after end_) :
    Lasts own (flow.bind f) clock calls result after end_ := by
  induction lasts with
  | done => exact onward
  | record _ ih => exact .record (ih onward)
  | note _ ih => exact .note (ih onward)
  | sleep _ ih => exact .sleep (ih onward)
  | asleep early _ ih => exact .asleep early (ih onward)

/-- What has come to a value has come to that one. -/
theorem ofDone {other : α} (lasts : Lasts own (.done other) clock calls value last count) :
    other = value ∧ clock = last := by
  cases lasts
  exact ⟨rfl, rfl⟩

/-- Time may pass until the flow wakes. -/
theorem elapse {later : Nat} {world : World} (lasts : Lasts own flow clock calls value last count)
    (waits : flow.readyAt world = none) (inTime : ∀ due, flow.nextDue = some due → later ≤ due) :
    Lasts own flow later calls value last count := by
  cases lasts with
  | asleep early onward => exact .asleep (inTime _ rfl) onward
  | _ => cases waits

end Lasts

theorem callsOf_note (world : World) (own call : HandlerCall) :
    ({ world with calls := world.calls ++ [own] } : World).callsOf call =
      world.callsOf call + if own.slot = call.slot ∧ own.routine = call.routine then 1 else 0 := by
  simp only [World.callsOf, List.filter_append, List.length_append, List.filter_cons, List.filter_nil]
  split <;> simp_all

/-- A run brings a flow further on its way, up to its end or its next sleep. -/
theorem Lasts.run {own : HandlerCall} {flow : Flow α} {clock calls last count : Nat} {value : α}
    (lasts : Lasts own flow clock calls value last count) :
    ∀ (world : World) {moved : Flow α} {after : World}, world.clock = clock → world.callsOf own = calls →
      flow.run world = (moved, after) →
      Lasts own moved clock (after.callsOf own) value last count ∧ Aside own world after := by
  induction lasts with
  | done value clock calls =>
      rintro world moved after rfl rfl runs
      obtain ⟨rfl, rfl⟩ := Prod.mk.inj runs
      exact ⟨.done _ _ _, .refl _ _⟩
  | @record entry _ _ _ _ _ _ _ ih =>
      rintro world moved after rfl rfl runs
      obtain ⟨lasts, aside⟩ := ih { world with journal := world.journal ++ [entry] } rfl rfl runs
      exact ⟨lasts, aside.engine, aside.others⟩
  | note _ ih =>
      rintro world moved after rfl rfl runs
      have counted := callsOf_note world own
      have again := counted own
      rw [if_pos ⟨rfl, rfl⟩] at again
      obtain ⟨lasts, aside⟩ := ih { world with calls := world.calls ++ [own] } rfl again runs
      refine ⟨lasts, aside.engine, fun call apart => (aside.others call apart).trans ?_⟩
      rw [counted, if_neg, Nat.add_zero]
      rintro ⟨slot, routine⟩
      exact apart.elim (fun differs => differs slot.symm) fun differs => differs routine.symm
  | @sleep time _ _ _ _ _ _ onward ih =>
      rintro world moved after rfl rfl runs
      rw [Flow.run] at runs
      split at runs
      next zero =>
        subst zero
        exact ih world rfl rfl runs
      next =>
        obtain ⟨rfl, rfl⟩ := Prod.mk.inj runs
        exact ⟨.asleep (Nat.le_add_right _ _) onward, rfl, fun _ _ => rfl⟩
  | asleep early onward ih =>
      rintro world moved after rfl rfl runs
      rw [Flow.run] at runs
      split at runs
      next passed =>
        obtain rfl := Nat.le_antisymm early passed
        exact ih world rfl rfl runs
      next =>
        obtain ⟨rfl, rfl⟩ := Prod.mk.inj runs
        exact ⟨.asleep early onward, .refl _ _⟩

end Flow

/-! ## What scripts settle -/

open Flow (Lasts)

namespace Outcome

/-- How long an outcome takes. -/
def delay : Outcome → Nat
  | .reply _ => 0
  | .failure _ => 0
  | .delayed time outcome => time + outcome.delay

/-- What an outcome counts as in the end; a failure counts as no. -/
def verdict : Outcome → Bool
  | .reply value => value
  | .failure _ => false
  | .delayed _ outcome => outcome.verdict

end Outcome

namespace ScriptedHandler

/-- What comes of a look for the dialog after so many looks. -/
def look (script : ScriptedHandler) (earlier : Nat) : Outcome :=
  if script.covers .popup then outcomeAt (script.script .popup) earlier
  else .reply Routine.popup.usual

/-- After what time the wait for the dialog comes to true, if it does, with so many more looks to make
and after so many looks. -/
def confirmsAfter (timings : Timings) (script : ScriptedHandler) : Nat → Nat → Option Nat
  | 0, earlier =>
    if (script.look earlier).verdict then some (script.look earlier).delay else none
  | retries + 1, earlier =>
    if (script.look earlier).verdict then some (script.look earlier).delay
    else (confirmsAfter timings script retries (earlier + 1)).map fun rest =>
      (script.look earlier).delay + timings.popup + rest

end ScriptedHandler

/-- After what time the wait for the dialog of a scripted handler comes to true, if it does. -/
def Handler.confirmsAfter (timings : Timings) (handler : Handler) (earlier : Nat) : Option Nat :=
  match handler.plan with
  | .scripted script => script.confirmsAfter timings timings.popupRetries earlier
  | _ => none

/-- What a wait has come to at its end, if it comes to true at this time or at none. -/
def Meets (fate : Option Nat) (yes : Bool) (last : Nat) : Prop :=
  fate = if yes then some last else none

theorem lasts_outcome (own : HandlerCall) (outcome : Outcome) (clock calls : Nat) :
    ∃ result, Handler.outcome result = outcome.verdict ∧
      Lasts own outcome.run.run clock calls result (clock + outcome.delay) calls := by
  induction outcome generalizing clock with
  | reply value => exact ⟨.ok value, rfl, .done _ _ _⟩
  | failure message => exact ⟨.error (.stepFailed message), rfl, .done _ _ _⟩
  | delayed time outcome ih =>
      obtain ⟨result, is, lasts⟩ := ih (clock + time)
      refine ⟨result, is, .sleep ?_⟩
      rw [Outcome.delay, ← Nat.add_assoc]
      exact lasts

/-- One look for the dialog takes as long as its outcome.  Only scripts that follow it count it. -/
theorem lasts_look (script : ScriptedHandler) (slot clock calls : Nat) {earlier : Nat}
    (counted : script.covers .popup = true → calls = earlier) :
    ∃ result count, Handler.outcome result = (script.look earlier).verdict ∧
      (script.covers .popup = true → count = earlier + 1) ∧
      Lasts ⟨slot, script.name, .popup⟩ (script.run slot .popup).run clock calls result
        (clock + (script.look earlier).delay) count := by
  unfold ScriptedHandler.run ScriptedHandler.look
  cases covers : script.covers .popup with
  | true =>
      obtain rfl := counted covers
      obtain ⟨result, is, lasts⟩ := lasts_outcome ⟨slot, script.name, .popup⟩
        (outcomeAt (script.script .popup) calls) clock (calls + 1)
      exact ⟨result, calls + 1, is, fun _ => rfl, .note lasts⟩
  | false => exact ⟨.ok Routine.popup.usual, calls, rfl, nofun, .done _ _ _⟩

theorem lasts_attempt (timings : Timings) {handler : Handler} {script : ScriptedHandler}
    (follows : handler.plan = .scripted script) (clock calls : Nat) {earlier : Nat}
    (counted : script.covers .popup = true → calls = earlier) :
    ∃ count, (script.covers .popup = true → count = earlier + 1) ∧
      Lasts (handler.call .popup) (handler.attempt timings .popup) clock calls
        (script.look earlier).verdict (clock + (script.look earlier).delay) count := by
  obtain ⟨slot, plan⟩ := handler
  obtain rfl : plan = .scripted script := follows
  obtain ⟨result, count, is, counts, lasts⟩ := lasts_look script slot clock calls counted
  refine ⟨count, counts, .record (lasts.bind ?_)⟩
  rw [← is]
  exact .record (.done _ _ _)

/-- The wait for the dialog of a scripted handler ends as its script says. -/
theorem lasts_poll (timings : Timings) {handler : Handler} {script : ScriptedHandler}
    (follows : handler.plan = .scripted script) (retries : Nat) :
    ∀ (clock calls : Nat) {earlier : Nat}, (script.covers .popup = true → calls = earlier) →
      ∃ yes last count,
        Meets ((script.confirmsAfter timings retries earlier).map (clock + ·)) yes last ∧
        Lasts (handler.call .popup)
          (Flow.poll (handler.attempt timings .popup) timings.popup retries) clock calls yes last count := by
  induction retries with
  | zero =>
      intro clock calls earlier counted
      obtain ⟨count, -, lasts⟩ := lasts_attempt timings follows clock calls counted
      refine ⟨_, _, count, ?_, lasts⟩
      rw [Meets, ScriptedHandler.confirmsAfter]
      split <;> rfl
  | succ retries ih =>
      intro clock calls earlier counted
      obtain ⟨count, counts, lasts⟩ := lasts_attempt timings follows clock calls counted
      rw [ScriptedHandler.confirmsAfter]
      cases verdict : (script.look earlier).verdict with
      | true =>
          rw [verdict] at lasts
          exact ⟨true, _, count, rfl, lasts.bind (.done true _ _)⟩
      | false =>
          rw [verdict] at lasts
          obtain ⟨yes, last, later, meets, rest⟩ :=
            ih (clock + (script.look earlier).delay + timings.popup) count counts
          refine ⟨yes, last, later, ?_, lasts.bind (.sleep rest)⟩
          rw [if_neg Bool.false_ne_true, Option.map_map]
          refine Eq.trans (congrArg (Option.map · _) (funext fun time => ?_)) meets
          simp only [Function.comp_apply, Nat.add_assoc]

theorem lasts_waitForPopup (timings : Timings) {handler : Handler} {script : ScriptedHandler}
    (follows : handler.plan = .scripted script) (clock calls : Nat) :
    ∃ yes last count, Meets ((handler.confirmsAfter timings calls).map (clock + ·)) yes last ∧
      Lasts (handler.call .popup) (Engine.waitForPopup timings handler) clock calls yes last count := by
  have known : handler.confirmsAfter timings calls =
      script.confirmsAfter timings timings.popupRetries calls := by
    rw [Handler.confirmsAfter, follows]
  rw [known]
  exact lasts_poll timings follows timings.popupRetries clock calls fun _ => rfl

end ConsentBanner

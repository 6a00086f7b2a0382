import ConsentBanner.Handler.Run
import Mathlib.Data.List.Forall2

/-!
# A failure counts as no

A handler whose script fails is used just as one whose script says no in the same time: the engine never
learns of the difference.  `Handler.Alike` says so of any two handlers, and `Plan.Softens.alike` that a script
may be softened, one failure at a time or all at once.
-/

set_option autoImplicit false

namespace ConsentBanner

/-- An outcome in place of another one: where that fails, it may say no instead, after the same delays. -/
inductive Outcome.Softens : Outcome → Outcome → Prop where
  | refl (outcome : Outcome) : Softens outcome outcome
  | soften (message : String) : Softens (.failure message) (.reply false)
  | delayed {one two : Outcome} (time : Nat) (inner : Softens one two) :
      Softens (.delayed time one) (.delayed time two)

def Outcome.softened : Outcome → Outcome
  | .reply value => .reply value
  | .failure _ => .reply false
  | .delayed time outcome => .delayed time outcome.softened

theorem Outcome.softens_softened (outcome : Outcome) : outcome.Softens outcome.softened := by
  induction outcome with
  | reply value => exact .refl _
  | failure message => exact .soften message
  | delayed time _ ih => exact .delayed time ih

/-- A plan in place of another one: scripts may be softened. -/
inductive Plan.Softens : Plan → Plan → Prop where
  | refl (plan : Plan) : Softens plan plan
  | scripted {handler : ScriptedHandler} {script : Routine → List Outcome}
      (softer : ∀ routine, List.Forall₂ Outcome.Softens (handler.script routine) (script routine)) :
      Softens (.scripted handler) (.scripted { handler with script := script })

def Plan.softened : Plan → Plan
  | .scripted handler =>
    .scripted { handler with script := fun routine => (handler.script routine).map Outcome.softened }
  | plan => plan

theorem Plan.softens_softened (plan : Plan) : plan.Softens plan.softened := by
  cases plan with
  | scripted handler =>
      refine .scripted fun routine => List.forall₂_map_right_iff.mpr (List.forall₂_same.mpr ?_)
      intro outcome _
      exact outcome.softens_softened
  | _ => exact .refl _

/-- Handlers that nobody who uses them can tell apart. -/
structure Handler.Alike (one two : Handler) : Prop where
  slot : one.slot = two.slot
  name : one.name = two.name
  traits : one.traits = two.traits
  attempt : ∀ timings routine, one.attempt timings routine = two.attempt timings routine

theorem Handler.Alike.refl (handler : Handler) : handler.Alike handler := ⟨rfl, rfl, rfl, fun _ _ => rfl⟩

/-- Each call comes to an outcome in place of the other one. -/
theorem softens_outcomeAt {outcomes softer : List Outcome}
    (each : List.Forall₂ Outcome.Softens outcomes softer) :
    ∀ count, (outcomeAt outcomes count).Softens (outcomeAt softer count) := by
  induction each with
  | nil => exact fun _ => .refl _
  | @cons first first' rest rest' head tail ih =>
      intro count
      cases tail with
      | nil => exact head
      | cons =>
          cases count with
          | zero => exact head
          | succ count => exact ih count

theorem Outcome.Softens.settles {α : Type} {one two : Outcome} (softer : one.Softens two)
    (next : Bool → Flow α) :
    (one.run.run.bind fun result => next (Handler.outcome result)) =
      two.run.run.bind fun result => next (Handler.outcome result) := by
  induction softer with
  | refl => rfl
  | soften message => rfl
  | delayed time _ ih => exact congrArg (Flow.sleep time) ih

theorem settles_run {α : Type} {handler : ScriptedHandler} {script : Routine → List Outcome}
    {routine : Routine} (softer : List.Forall₂ Outcome.Softens (handler.script routine) (script routine))
    (slot : Nat) (next : Bool → Flow α) :
    ((handler.run slot routine).run.bind fun result => next (Handler.outcome result)) =
      ({ handler with script := script }.run slot routine).run.bind fun result =>
        next (Handler.outcome result) := by
  have covers : { handler with script := script }.covers routine = handler.covers routine := by
    cases routine <;> rfl
  unfold ScriptedHandler.run
  rw [covers]
  split
  · exact congrArg (Flow.ask (.note ⟨slot, handler.name, routine⟩)) (funext fun count =>
      (softens_outcomeAt softer count).settles next)
  · rfl

/-- A handler is used just as one with a softened script. -/
theorem Plan.Softens.alike {plan softer : Plan} (softens : plan.Softens softer) (slot : Nat) :
    Handler.Alike ⟨slot, plan⟩ ⟨slot, softer⟩ := by
  cases softens with
  | refl => exact .refl _
  | @scripted handler script softer =>
      refine ⟨rfl, rfl, rfl, fun timings routine => ?_⟩
      have settles := settles_run (softer routine) slot fun value =>
        (Handler.record ⟨slot, .scripted handler⟩ routine (.came value)).bind fun _ => .done value
      exact congrArg (Flow.ask (.record ⟨⟨slot, handler.name, routine⟩, .begun⟩)) (funext fun _ => settles)

end ConsentBanner

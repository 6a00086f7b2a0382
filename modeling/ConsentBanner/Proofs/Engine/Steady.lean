import ConsentBanner.Proofs.Engine.Detection
import ConsentBanner.Proofs.Flow.Alone

/-!
# Steady flows

Only a candidate's lane confirms a handler and has handlers look for dialogs.  Everything else that the
engine does is steady: it leaves the confirmed handler and the count of those looks as they are, hides nothing for
the time being, and ends as time passes.  Which routines a steady flow engages handlers in is said with it.
-/

set_option autoImplicit false

namespace ConsentBanner

/-- Requests of the engine that change nothing of what it knows but how far it has come, and engage handlers
in some routines only. -/
def Request.IsSteady (engaged : Routine → Prop) : {β : Type} → Request β → Prop
  | _, .update change => ∀ state, ∃ phase, change state = { state with phase := phase }
  | _, .note call => engaged call.routine
  | _, .record entry => engaged entry.call.routine
  | _, .resolve _ _ => False
  | _, .page call => call.AddsNoneTo Hiding.passingStyle
  | _, _ => True

/-- The confirmed handler and the count of the looks for dialogs stay as they are. -/
structure Ledger.Steady (before after : Ledger) : Prop where
  found : after.engine.found = before.engine.found
  looks : ∀ call : HandlerCall, call.routine = .popup → after.callsOf call = before.callsOf call

theorem steady_respects : Flow.Respects (Request.IsSteady (· ≠ .popup)) Ledger.Steady where
  refl _ := ⟨rfl, fun _ _ => rfl⟩
  trans one two := ⟨two.found.trans one.found, fun call popup =>
    (two.looks call popup).trans (one.looks call popup)⟩
  reply {_ request _ before after} allowed replied := by
    rw [replied.eq_upon]
    cases request with
    | update change =>
        obtain ⟨phase, is⟩ := allowed before.engine
        have found : (change before.engine).found = before.engine.found := by rw [is]
        exact ⟨found, fun _ _ => rfl⟩
    | note call =>
        refine ⟨rfl, fun other popup => ?_⟩
        have apart : call.routine ≠ other.routine := fun same => allowed (same.trans popup)
        simp [Ledger.upon, Ledger.callsOf, Ledger.note, apart]
    | resolve _ _ => cases allowed
    | _ => exact ⟨rfl, fun _ _ => rfl⟩

theorem Request.IsModest.steady {β : Type} {request : Request β} (modest : request.IsModest)
    (engaged : Routine → Prop) : request.IsSteady engaged := by
  cases request with
  | update _ | resolve _ _ | note _ | record _ => cases modest
  | page call => exact PageCall.Spares.addsNoneTo modest
  | _ => trivial

theorem Request.Fits.steady {β : Type} {request : Request β} {routine : Routine} (fits : request.Fits routine)
    {engaged : Routine → Prop} (engages : engaged routine) : request.IsSteady engaged := by
  cases request with
  | note call =>
      obtain rfl : call.routine = routine := fits
      exact engages
  | update _ | resolve _ _ | record _ => cases fits
  | page call => exact PageCall.Spares.addsNoneTo fits
  | _ => trivial

namespace Engine

open Flow (Confined Modest)

/-- A flow that is steady and waits for nothing but time in the end. -/
abbrev Steady (engaged : Routine → Prop) {α : Type} (flow : Flow α) : Prop :=
  flow.Confined (Request.IsSteady engaged) true

variable {engaged : Routine → Prop}

theorem steady_modest {α : Type} {flow : Flow α} (modest : flow.Modest) : Steady engaged flow :=
  (modest.weaken fun _ modest => modest.steady engaged).1

theorem steady_enter (phase : Phase) : Steady engaged (enter phase) := .request (fun _ => ⟨phase, rfl⟩) trivial

theorem steady_send (message : Outbound) : Steady engaged (Flow.send message) := .request trivial trivial

theorem steady_state : Steady engaged state := .request trivial trivial

theorem steady_url : Steady engaged Primitive.url := steady_modest Modest.url

theorem steady_undoPrehide : Steady engaged undoPrehide :=
  .andThen steady_state fun _ => .ite (.andThen (.ask trivial _) fun _ => .pure _) (.pure _)

section Handlers

variable {may : Allowance} (timings : Timings)

theorem confined_noted {handler : Handler} {routine : Routine}
    (runs : (handler.run timings routine).run.Confined may true)
    (records : ∀ progress, may (.record ⟨handler.call routine, progress⟩)) :
    (handler.attempt timings routine).Confined may true :=
  .andThen (.request (records _) trivial) fun _ => .andThen runs fun _ =>
    .andThen (.request (records _) trivial) fun _ => .pure _

theorem confined_attempt {handler : Handler} {routine : Routine}
    (fits : ∀ {β : Type} (request : Request β), request.Fits routine → may request)
    (records : ∀ progress, may (.record ⟨handler.call routine, progress⟩)) :
    (handler.attempt timings routine).Confined may true :=
  confined_noted timings ((handler.run_fits timings routine).weaken fits).1 records

/-- A search asks handlers whether their platforms are there, and reports what it finds. -/
theorem confined_findCandidates
    (fits : ∀ {β : Type} (request : Request β), request.Fits .detect → may request)
    (records : ∀ (handler : Handler) progress, may (.record ⟨handler.call .detect, progress⟩))
    (reads : may .state) (sends : ∀ names, may (.send (.detectionConflict names))) (retries : Nat) :
    (findCandidates timings retries).Confined may true := by
  have modestly : ∀ {α : Type} {flow : Flow α}, flow.Modest → flow.Confined may true :=
    fun modest => ((modest.fits .detect).weaken fits).1
  have pass : (detectionPass timings).Confined may true := by
    refine .andThen ?_ fun handlers => .andThen (.all fun flow member => ?_) fun _ => .pure _
    · exact .andThen (modestly Modest.isTopFrame) fun _ => .andThen (modestly Modest.url) fun _ =>
        .andThen (.request reads trivial) fun _ => .pure _
    · obtain ⟨handler, -, rfl⟩ := List.mem_map.mp member
      exact confined_attempt timings fits (records handler)
  have report : ∀ found, (reportConflict found).Confined may true := by
    intro found
    unfold reportConflict
    split
    · exact .request (sends _) trivial
    · exact .pure _
  induction retries with
  | zero => exact .andThen pass fun found => .andThen (report found) fun _ => .pure _
  | succ retries ih =>
      refine .andThen pass fun found => .andThen (report found) fun _ => .ite ?_ (.pure _)
      exact .andThen (.pause _) fun _ => ih

end Handlers

theorem steady_attempt (timings : Timings) (handler : Handler) {routine : Routine}
    (engages : engaged routine) : Steady engaged (handler.attempt timings routine) :=
  confined_attempt timings (fun _ fits => fits.steady engages) fun _ => engages

theorem steady_holds (found : Option Handler) {property : Handler → Flow Bool}
    (each : ∀ handler, Steady engaged (property handler)) : Steady engaged (holds found property) := by
  cases found with
  | none => exact .pure _
  | some handler => exact each handler

theorem steady_execute (timings : Timings) {decision : Decision} (engages : engaged decision.routine) :
    Steady engaged (execute timings decision) := by
  have attempted : ∀ found, Steady engaged (attempt timings found decision.routine) := by
    intro found
    cases found with
    | none => exact .pure _
    | some handler => exact steady_attempt timings handler engages
  have recalled : ∀ slot, Steady engaged (memoryOf slot) := fun slot => steady_modest (Modest.recollect slot)
  refine .andThen (steady_enter _) fun _ => .andThen steady_state fun known => ?_
  refine .andThen (attempted known.found) fun result => ?_
  refine .andThen (steady_undoPrehide) fun _ => .andThen (steady_enter _) fun _ => ?_
  refine .andThen steady_url fun url => ?_
  refine .andThen (steady_holds _ fun handler => .andThen (recalled _) fun _ => .pure _) fun tests => ?_
  refine .andThen (steady_send _) fun _ => ?_
  have final : Steady engaged (do enter .done; return result) := .andThen (steady_enter _) fun _ => .pure _
  refine .ite (.andThen (steady_holds _ fun handler => ?_) fun completes => .ite ?_ ?_) ?_
  · exact .andThen (.andThen (recalled _) fun _ => .pure _) fun _ => .pure _
  · exact .andThen (steady_send _) fun _ => final
  · exact final
  · exact final

theorem steady_selfTest (timings : Timings) (engages : engaged .selfTest) : Steady engaged (selfTest timings) := by
  refine .andThen steady_state fun known => .andThen ?_ fun result => ?_
  · cases known.found with
    | none => exact .pure _
    | some handler => exact steady_attempt timings handler engages
  · exact .andThen steady_url fun url => .andThen (steady_send _) fun _ => .pure _

theorem steady_decide (timings : Timings) (action : AutoAction)
    (engages : ∀ decision : Decision, engaged decision.routine) : Steady engaged (decide timings action) := by
  refine .andThen (steady_enter _) fun _ => ?_
  cases action with
  | optOut => exact steady_execute timings (engages .optOut)
  | optIn => exact steady_execute timings (engages .optIn)
  | doNothing => exact .andThen (steady_enter _) fun _ => .pure _

theorem steady_giveUp (phase : Phase) : Steady engaged (giveUp phase) :=
  .andThen (steady_enter _) fun _ => .andThen (steady_undoPrehide) fun _ => .pure _

theorem steady_findCandidates (timings : Timings) (engages : engaged .detect) (retries : Nat) :
    Steady engaged (findCandidates timings retries) :=
  confined_findCandidates timings (fun _ fits => fits.steady engages) (fun _ _ => engages) trivial
    (fun _ => trivial) retries

end Engine

end ConsentBanner

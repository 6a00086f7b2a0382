import ConsentBanner.Proofs.Engine.Completion
import ConsentBanner.Proofs.Flow.Running
import ConsentBanner.Proofs.Flow.Story
import Mathlib.Data.List.Perm.Subperm

/-!
# Who is asked

A story tells which handlers were called, and when.  Handlers are asked whether their platform is there in
detection passes only, each of which asks those that may run on the page as it was just then.  Who is asked
for a dialog has answered yes in the last of these passes.  Main statement: `Engine.receive_tells`.
-/

set_option autoImplicit false

namespace ConsentBanner

def Request.entry? : {β : Type} → Request β → Option JournalEntry
  | _, .record entry => some entry
  | _, _ => none

def JournalEntry.begun? : JournalEntry → Option HandlerCall
  | ⟨call, .begun⟩ => some call
  | _ => none

def noted (story : List Exchange) : List JournalEntry :=
  story.filterMap fun exchange => exchange.request.entry?

def called (story : List Exchange) : List HandlerCall := (noted story).filterMap JournalEntry.begun?

theorem noted_append (one two : List Exchange) : noted (one ++ two) = noted one ++ noted two :=
  List.filterMap_append

theorem called_append (one two : List Exchange) : called (one ++ two) = called one ++ called two := by
  rw [called, noted_append, List.filterMap_append]
  rfl

theorem Ledger.Follows.journal {story : List Exchange} {after : Ledger} : ∀ {before : Ledger},
    before.Follows story after → after.journal = before.journal ++ noted story := by
  induction story with
  | nil =>
      rintro before rfl
      exact (List.append_nil _).symm
  | cons exchange rest ih =>
      rintro before ⟨between, replied, follows⟩
      rw [ih follows, replied.eq_upon]
      obtain ⟨request, reply⟩ := exchange
      cases request with
      | record entry => exact List.append_assoc _ _ _
      | _ => rfl

def Request.Engages (engaged : HandlerCall → Prop) : {β : Type} → Request β → Prop
  | _, .record entry => engaged entry.call
  | _, _ => True

theorem Request.IsSteady.engages {β : Type} {request : Request β} {engaged : Routine → Prop}
    (steady : request.IsSteady engaged) : request.Engages fun call => engaged call.routine := by
  cases request with
  | record entry => exact steady
  | _ => trivial

theorem Request.Fits.engages {β : Type} {request : Request β} {routine : Routine} (fits : request.Fits routine)
    (engaged : HandlerCall → Prop) : request.Engages engaged := by
  cases request with
  | record entry => cases fits
  | _ => trivial

theorem noted_of_allowed {engaged : HandlerCall → Prop} {story : List Exchange}
    (allowed : Flow.Allowed (Request.Engages engaged) story) : ∀ entry ∈ noted story, engaged entry.call := by
  intro entry member
  obtain ⟨⟨request, reply⟩, within, is⟩ := List.mem_filterMap.mp member
  have engages := allowed _ within
  cases request with
  | record other =>
      obtain rfl := Option.some.inj is
      exact engages
  | _ => cases is

namespace Engine

open Flow (Step Steps Allowed Confined)

variable {α : Type} {timings : Timings}

/-- Two flows in sequence are not done before the first one is. -/
theorem unfinished {β : Type} {f : α → Flow β} {moved : Flow α} {value : β} (pending : moved.value? = none)
    (done : moved.bind f = .done value) : False := by
  have still := Flow.value?_bind (f := f) pending
  rw [done] at still
  cases still

/-! ## One pass -/

/-- How a detection pass begins: kind of frame and address are read, and then who takes part. -/
def passOpening (frame : Except PageError Bool) (address : Except PageError String) (known : EngineState) :
    List Exchange :=
  [⟨.page .isTopFrame, frame⟩, ⟨.page .location, address⟩, ⟨.state, known⟩]

/-- The calls of a detection pass: one for every handler that may run on the page as it was read, where an
unknown kind of frame is taken for the top one and an unknown address is empty. -/
def passCalls (frame : Except PageError Bool) (address : Except PageError String) (known : EngineState) :
    List HandlerCall :=
  (known.handlers.filter fun handler =>
    handler.allows (Primitive.orElse frame true) (Primitive.orElse address "")).map
      fun handler => handler.call .detect

/-- What a detection pass tells: whoever may run is called once, and nobody else is. -/
def IsPass (story : List Exchange) : Prop :=
  ∃ frame address known rest, story = passOpening frame address known ++ rest ∧
    (called rest).Perm (passCalls frame address known)

/-- What a detection pass tells that has not come to its end. -/
def IsPassPart (story : List Exchange) : Prop :=
  ∃ frame address known rest, story <+: passOpening frame address known ++ rest ∧
    (called rest).Subperm (passCalls frame address known)

theorem attempt_eq (handler : Handler) (routine : Routine) : handler.attempt timings routine =
    .ask (.record ⟨handler.call routine, .begun⟩) fun _ => (handler.run timings routine).run.bind fun result =>
      .ask (.record ⟨handler.call routine, .came (Handler.outcome result)⟩) fun _ =>
        .done (Handler.outcome result) := rfl

theorem noted_run {handler : Handler} {routine : Routine} {story : List Exchange}
    {after : Flow (Except ConsentError Bool)} (steps : Steps (handler.run timings routine).run story after) :
    noted story = [] := by
  have confined := ((handler.run_fits timings routine).weaken fun _ fits => fits.engages fun _ => False).1
  refine List.eq_nil_iff_forall_not_mem.mpr fun entry member => ?_
  exact noted_of_allowed (steps.confined confined).2 entry member

theorem detectionPass_eq : detectionPass timings =
    .ask (.page .isTopFrame) fun frame => .ask (.page .location) fun address => .ask .state fun known =>
      let handlers := known.handlers.filter fun handler =>
        handler.allows (Primitive.orElse frame true) (Primitive.orElse address "")
      (Flow.all (handlers.map fun handler => handler.attempt timings .detect)).bind fun answers =>
        .done (chosen handlers answers) := rfl

def Calls (routines : Routine → Prop) (story : List Exchange) : Prop :=
  ∀ call ∈ called story, routines call.routine

theorem Calls.none {routines : Routine → Prop} {story : List Exchange} (silent : called story = []) :
    Calls routines story := by
  intro call member
  rw [silent] at member
  cases member

theorem Calls.append {routines : Routine → Prop} {one two : List Exchange} (first : Calls routines one)
    (second : Calls routines two) : Calls routines (one ++ two) := by
  intro call member
  rw [called_append] at member
  rcases List.mem_append.mp member with member | member
  · exact first call member
  · exact second call member

theorem Calls.mono {some more : Routine → Prop} {story : List Exchange} (calls : Calls some story)
    (imp : ∀ routine, some routine → more routine) : Calls more story :=
  fun call member => imp _ (calls call member)

theorem IsPass.part {story : List Exchange} (pass : IsPass story) : IsPassPart story := by
  obtain ⟨frame, address, known, rest, rfl, whole⟩ := pass
  exact ⟨frame, address, known, rest, List.prefix_rfl, whole.subperm⟩

/-- Handlers are asked whether their platform is there in detection passes only. -/
inductive Gated : List Exchange → Prop where
  | aside {story : List Exchange} (silent : Calls (· ≠ .detect) story) : Gated story
  | part {story part : List Exchange} (silent : Calls (· ≠ .detect) story) (asks : IsPassPart part) :
      Gated (story ++ part)
  | pass {story pass rest : List Exchange} (silent : Calls (· ≠ .detect) story) (asks : IsPass pass)
      (onward : Gated rest) : Gated (story ++ pass ++ rest)

theorem Gated.after {before rest : List Exchange} (silent : Calls (· ≠ .detect) before) (gated : Gated rest) :
    Gated (before ++ rest) := by
  cases gated with
  | aside more => exact .aside (silent.append more)
  | part more asks =>
      rw [← List.append_assoc]
      exact .part (silent.append more) asks
  | pass more asks onward =>
      rw [← List.append_assoc, ← List.append_assoc]
      exact .pass (silent.append more) asks onward

/-- Handlers are asked for their dialogs after the last detection pass, and only those that have answered
yes in it. -/
def Confirms (story : List Exchange) : Prop :=
  Calls (· ≠ .popup) story ∨
    ∃ before pass later, story = before ++ pass ++ later ∧ Calls (· ≠ .popup) (before ++ pass) ∧ IsPass pass ∧
      Calls (· ≠ .detect) later ∧ ∀ call ∈ called later, call.routine = .popup →
        ∃ handler : Handler, call = handler.call .popup ∧ ⟨handler.call .detect, .came true⟩ ∈ noted pass

theorem Confirms.after {first story : List Exchange} (silent : called first = []) (confirms : Confirms story) :
    Confirms (first ++ story) := by
  rcases confirms with none | ⟨before, pass, later, rfl, none, asks, past, looks⟩
  · exact .inl ((Calls.none silent).append none)
  · refine .inr ⟨first ++ before, pass, later, by simp, ?_, asks, past, looks⟩
    rw [List.append_assoc]
    exact (Calls.none silent).append none

theorem start_eq : start timings = state.bind fun known => (enter .detecting).bind fun _ =>
    (findCandidates timings known.config.detectRetries).bind (react timings known.config.autoAction) := rfl

def preparation (timings : Timings) (config : EngineConfig) (rules : RuleSet) : Flow Unit := do
  update fun state => { state with config := config }
  update fun state => (state.addRules rules).disable config.disabledCmps
  if config.enablePrehide then
    let _ ← prehide
  waitUntilReady timings

theorem setUp_enabled {config : EngineConfig} (rules : RuleSet) (enabled : config.enabled = true) :
    setUp timings config rules = (preparation timings config rules).bind fun _ => start timings := by
  unfold setUp preparation
  cases config.enablePrehide <;>
    simp only [enabled, if_true, Bool.false_eq_true, if_false, Flow.andThen_eq, Flow.pure_eq, Flow.bind_assoc]

end Engine

end ConsentBanner

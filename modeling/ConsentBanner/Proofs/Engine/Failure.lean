import ConsentBanner.Proofs.Engine.Completion
import ConsentBanner.Proofs.Engine.Steady
import ConsentBanner.Proofs.Handler.Failure
import ConsentBanner.Proofs.Rehearsal.Alike

/-!
# Failures of handlers are contained

The engine uses handlers in so few ways that it does the same with handlers that cannot be told apart.  A
session in which scripts fail runs just as one in which they say no instead: the same messages at the same
times, the same calls of handlers and the same results.  Main statement: `Engine.failures_contained`.
-/

set_option autoImplicit false

namespace ConsentBanner

/-- What the engine knows, up to handlers that cannot be told apart. -/
structure EngineState.Alike (one two : EngineState) : Prop where
  handlers : List.Forall₂ Handler.Alike one.handlers two.handlers
  found : Option.Rel Handler.Alike one.found two.found
  config : one.config = two.config
  phase : one.phase = two.phase
  nextSlot : one.nextSlot = two.nextSlot

/-- What cannot be told apart reads the same, one handler after the other. -/
theorem map_alike {α : Type} {handlers others : List Handler} {read : Handler → α}
    (alike : List.Forall₂ Handler.Alike handlers others)
    (same : ∀ {one two : Handler}, one.Alike two → read one = read two) :
    handlers.map read = others.map read := by
  induction alike with
  | nil => rfl
  | cons first _ ih => rw [List.map_cons, List.map_cons, same first, ih]

namespace EngineState.Alike

variable {one two : EngineState}

theorem enter (alike : one.Alike two) (phase : Phase) :
    { one with phase := phase }.Alike { two with phase := phase } :=
  ⟨alike.handlers, alike.found, alike.config, rfl, alike.nextSlot⟩

theorem configure (alike : one.Alike two) (config : EngineConfig) :
    { one with config := config }.Alike { two with config := config } :=
  ⟨alike.handlers, alike.found, rfl, alike.phase, alike.nextSlot⟩

theorem add (alike : one.Alike two) {plan softer : Plan} (softens : plan.Softens softer) :
    (one.add plan).Alike (two.add softer) := by
  have last : Handler.Alike ⟨one.nextSlot, plan⟩ ⟨two.nextSlot, softer⟩ :=
    alike.nextSlot ▸ softens.alike one.nextSlot
  exact ⟨List.rel_append alike.handlers (.cons last .nil), alike.found, alike.config, alike.phase,
    congrArg (· + 1) alike.nextSlot⟩

theorem addAll {plans softer : List Plan} (softens : List.Forall₂ Plan.Softens plans softer) :
    ∀ {one two : EngineState}, one.Alike two →
      (plans.foldl EngineState.add one).Alike (softer.foldl EngineState.add two) := by
  induction softens with
  | nil => exact id
  | cons first _ ih => exact fun alike => ih (alike.add first)

theorem addRules (alike : one.Alike two) (rules : RuleSet) : (one.addRules rules).Alike (two.addRules rules) :=
  addAll (List.forall₂_same.mpr fun plan _ => .refl plan) alike

theorem disable (alike : one.Alike two) (names : List String) :
    (one.disable names).Alike (two.disable names) := by
  refine ⟨List.rel_filter (fun handler other same => ?_) alike.handlers, alike.found, alike.config,
    alike.phase, alike.nextSlot⟩
  simp only [same.name]

theorem confirm (alike : one.Alike two) {handler other : Handler} (same : handler.Alike other) :
    (one.confirm handler).Alike (two.confirm other) := by
  have found := alike.found
  unfold EngineState.confirm
  generalize one.found = mine at found ⊢
  generalize two.found = theirs at found ⊢
  cases found with
  | none => exact ⟨alike.handlers, .some same, alike.config, alike.phase, alike.nextSlot⟩
  | some => exact alike

end EngineState.Alike

theorem Request.IsModest.free {β : Type} {request : Request β} (modest : request.IsModest) :
    request.IsFree := by
  cases request with
  | state | update _ => cases modest
  | _ => trivial

theorem Request.Fits.free {β : Type} {request : Request β} {routine : Routine}
    (fits : request.Fits routine) : request.IsFree := by
  cases request with
  | state | update _ => cases fits
  | _ => trivial

namespace Engine

open EngineState (Alike)

/-- Flows of the engine that do the same with handlers that cannot be told apart. -/
abbrev Same {α : Type} (same : α → α → Prop) (one two : Flow α) : Prop :=
  Flow.Alike EngineState.Alike same one two

theorem same_free {α : Type} {flow : Flow α} (free : flow.Confined Request.IsFree true) : Same Eq flow flow :=
  free.alike

theorem same_modest {α : Type} {flow : Flow α} (modest : flow.Modest) : Same Eq flow flow :=
  same_free (modest.weaken fun _ modest => modest.free).1

theorem same_send (message : Outbound) : Same Eq (Flow.send message) (Flow.send message) :=
  .ask trivial fun _ => .done rfl

theorem same_state : Same EngineState.Alike state state := .state fun _ _ alike => .done alike

theorem same_enter (phase : Phase) : Same Eq (enter phase) (enter phase) :=
  .update (fun _ _ alike => alike.enter phase) (.done rfl)

theorem same_url : Same Eq Primitive.url Primitive.url := same_modest Flow.Modest.url

theorem free_attempt (timings : Timings) (handler : Handler) (routine : Routine) :
    (handler.attempt timings routine).Confined Request.IsFree true := by
  have runs := ((handler.run_fits timings routine).weaken fun _ fits => fits.free).1
  exact .andThen (.request trivial trivial) fun _ => .andThen runs fun _ =>
    .andThen (.request trivial trivial) fun _ => .pure _

theorem same_attempt (timings : Timings) {handler other : Handler} (alike : handler.Alike other)
    (routine : Routine) : Same Eq (handler.attempt timings routine) (other.attempt timings routine) :=
  alike.attempt timings routine ▸ (free_attempt timings handler routine).alike

/-! ## Decisions -/

theorem same_undoPrehide : Same Eq undoPrehide undoPrehide := by
  refine .andThen same_state fun one two alike => ?_
  rw [alike.config]
  split
  · exact .andThen (same_free (.ask trivial _)) fun _ _ _ => .pure rfl
  · exact .pure rfl

theorem same_tried (timings : Timings) {found other : Option Handler}
    (alike : Option.Rel Handler.Alike found other) (routine : Routine) :
    Same Eq (attempt timings found routine) (attempt timings other routine) := by
  cases alike with
  | none => exact .pure rfl
  | some alike => exact same_attempt timings alike routine

theorem same_holds {found other : Option Handler} (alike : Option.Rel Handler.Alike found other)
    {property : Handler → Flow Bool}
    (each : ∀ {one two : Handler}, one.Alike two → Same Eq (property one) (property two)) :
    Same Eq (holds found property) (holds other property) := by
  cases alike with
  | none => exact .pure rfl
  | some alike => exact each alike

theorem same_memory {one two : Handler} (alike : one.Alike two) (property : Traits → Memory → Bool) :
    Same Eq (do return property one.traits (← memoryOf one.slot))
      (do return property two.traits (← memoryOf two.slot)) := by
  rw [alike.slot, alike.traits]
  exact same_modest (.andThen (Flow.Modest.recollect _) fun _ => .pure _)

theorem reportedName_alike {found other : Option Handler} (alike : Option.Rel Handler.Alike found other) :
    reportedName found = reportedName other := by
  cases alike with
  | none => rfl
  | some alike => exact alike.name

theorem same_execute (timings : Timings) (decision : Decision) :
    Same Eq (execute timings decision) (execute timings decision) := by
  refine .andThen (same_enter _) fun _ _ _ => .andThen same_state fun one two alike => ?_
  refine .andThen (same_tried timings alike.found _) fun result result' same => ?_
  subst same
  refine .andThen same_undoPrehide fun _ _ _ => .andThen (same_enter _) fun _ _ _ => ?_
  refine .andThen same_url fun url url' same => ?_
  subst same
  refine .andThen (same_holds alike.found fun handlers => same_memory handlers Traits.hasSelfTest)
    fun tests tests' same => ?_
  subst same
  rw [reportedName_alike alike.found]
  refine .andThen (same_send _) fun _ _ _ => ?_
  have final : Same Eq (do enter .done; return result) (do enter .done; return result) :=
    .andThen (same_enter _) fun _ _ _ => .pure rfl
  cases result with
  | false => exact final
  | true =>
      refine .andThen (same_holds alike.found fun handlers =>
        .andThen (same_memory handlers Traits.isIntermediate) fun _ _ same => .pure (congrArg _ same))
        fun completes completes' same => ?_
      subst same
      cases completes with
      | false => exact final
      | true => exact .andThen (same_send _) fun _ _ _ => final

theorem same_selfTest (timings : Timings) : Same Eq (selfTest timings) (selfTest timings) := by
  refine .andThen same_state fun one two alike => ?_
  refine .andThen (same_tried timings alike.found _) fun result result' same => ?_
  subst same
  refine .andThen same_url fun url url' same => ?_
  subst same
  rw [reportedName_alike alike.found]
  exact .andThen (same_send _) fun _ _ _ => .pure rfl

/-! ## Detection -/

theorem same_eligible : Same (List.Forall₂ Handler.Alike) eligible eligible := by
  refine .andThen (same_modest Flow.Modest.isTopFrame) fun isTop isTop' same => ?_
  subst same
  refine .andThen same_url fun url url' same => ?_
  subst same
  refine .andThen same_state fun one two alike => ?_
  refine .pure (List.rel_filter (fun handler other same => ?_) alike.handlers)
  simp only [Handler.allows, same.traits]

theorem chosen_alike {handlers others : List Handler} (alike : List.Forall₂ Handler.Alike handlers others)
    (answers : List Bool) : List.Forall₂ Handler.Alike (chosen handlers answers) (chosen others answers) := by
  induction alike generalizing answers with
  | nil => exact .nil
  | cons first rest ih =>
      cases answers with
      | nil => exact .nil
      | cons answer answers =>
          cases answer with
          | false => exact ih answers
          | true => exact .cons first (ih answers)

theorem same_detectionPass (timings : Timings) :
    Same (List.Forall₂ Handler.Alike) (detectionPass timings) (detectionPass timings) := by
  refine .andThen same_eligible fun handlers others alike => ?_
  have each : List.Forall₂ (Same Eq) (handlers.map fun handler => handler.attempt timings .detect)
      (others.map fun handler => handler.attempt timings .detect) :=
    List.forall₂_map_left_iff.mpr (List.forall₂_map_right_iff.mpr
      (alike.imp fun _ _ alike => same_attempt timings alike .detect))
  refine .andThen (.all each) fun answers answers' same => ?_
  rw [List.forall₂_eq_eq_eq] at same
  exact .pure (same ▸ chosen_alike alike answers)

theorem same_reportConflict {handlers others : List Handler}
    (alike : List.Forall₂ Handler.Alike handlers others) :
    Same Eq (reportConflict handlers) (reportConflict others) := by
  have names := map_alike alike Handler.Alike.name
  cases alike with
  | nil => exact .pure rfl
  | cons _ rest =>
      cases rest with
      | nil => exact .pure rfl
      | cons =>
          unfold reportConflict
          rw [names]
          exact same_send _

theorem same_findCandidates (timings : Timings) (retries : Nat) :
    Same (List.Forall₂ Handler.Alike) (findCandidates timings retries) (findCandidates timings retries) := by
  induction retries with
  | zero =>
      exact .andThen (same_detectionPass timings) fun found others alike =>
        .andThen (same_reportConflict alike) fun _ _ _ => .pure alike
  | succ retries ih =>
      refine .andThen (same_detectionPass timings) fun found others alike =>
        .andThen (same_reportConflict alike) fun _ _ _ => ?_
      cases alike with
      | nil => exact .andThen (same_modest (.pause _)) fun _ _ _ => ih
      | cons first rest => exact .pure (.cons first rest)

/-! ## A start -/

theorem same_waitForPopup (timings : Timings) {handler other : Handler} (alike : handler.Alike other) :
    Same Eq (waitForPopup timings handler) (waitForPopup timings other) := by
  unfold waitForPopup
  rw [← alike.attempt]
  exact (Flow.Confined.poll _ (free_attempt timings handler .popup) _).alike

theorem same_confirm {handler other : Handler} (alike : handler.Alike other) (url : String) :
    Same Eq (confirm handler url) (confirm other url) := by
  unfold confirm
  rw [alike.name]
  exact .andThen (.update (fun _ _ states => states.confirm alike) (.done rfl)) fun _ _ _ => same_send _

theorem same_candidateLane (timings : Timings) (url : String) {handler other : Handler}
    (alike : handler.Alike other) :
    Same Eq (candidateLane timings url handler) (candidateLane timings url other) := by
  refine .andThen (same_waitForPopup timings alike) fun shows shows' same => ?_
  subst same
  cases shows with
  | false => exact .pure rfl
  | true => exact .andThen (same_confirm alike url) fun _ _ _ => .pure rfl

theorem same_decide (timings : Timings) (action : AutoAction) :
    Same Eq (decide timings action) (decide timings action) := by
  refine .andThen (same_enter _) fun _ _ _ => ?_
  cases action with
  | optOut => exact same_execute timings .optOut
  | optIn => exact same_execute timings .optIn
  | doNothing => exact .andThen (same_enter _) fun _ _ _ => .pure rfl

theorem same_giveUp (phase : Phase) : Same Eq (giveUp phase) (giveUp phase) :=
  .andThen (same_enter _) fun _ _ _ => .andThen same_undoPrehide fun _ _ _ => .pure rfl

theorem same_announceEach (url : String) {handlers others : List Handler}
    (alike : List.Forall₂ Handler.Alike handlers others) :
    Same Eq (Flow.each (fun handler => Flow.send (.cmpDetected url handler.name)) handlers)
      (Flow.each (fun handler => Flow.send (.cmpDetected url handler.name)) others) := by
  induction alike with
  | nil => exact .pure rfl
  | cons first _ ih =>
      unfold Flow.each
      rw [first.name]
      exact .andThen (same_send _) fun _ _ _ => ih

theorem same_start (timings : Timings) : Same Eq (start timings) (start timings) := by
  refine .andThen same_state fun one two alike => .andThen (same_enter _) fun _ _ _ => ?_
  rw [alike.config]
  refine .andThen (same_findCandidates timings _) fun candidates others alike => ?_
  cases alike with
  | nil => exact same_giveUp .noneFound
  | cons first rest =>
      refine .andThen same_url fun url url' same => ?_
      subst same
      refine .andThen (same_announceEach url (.cons first rest)) fun _ _ _ =>
        .andThen (same_enter _) fun _ _ _ => ?_
      have lanes := List.forall₂_map_left_iff.mpr (List.forall₂_map_right_iff.mpr
        ((List.Forall₂.cons first rest).imp fun _ _ alike => same_candidateLane timings url alike))
      refine .lanes lanes (same_decide timings _) fun outcome => ?_
      cases outcome with
      | none => exact same_giveUp .noPopup
      | some acted => exact .pure rfl

theorem same_prehide : Same Eq prehide prehide := by
  refine .andThen same_state fun one two alike => ?_
  have hidden := map_alike alike.handlers fun same => congrArg Traits.prehideSelectors same.traits
  simp only [List.flatMap_def, hidden]
  exact same_free (.addRule trivial)

theorem same_setUp (timings : Timings) (config : EngineConfig) (rules : RuleSet) :
    Same Eq (setUp timings config rules) (setUp timings config rules) := by
  have rest : Same Eq (do waitUntilReady timings; start timings) (do waitUntilReady timings; start timings) :=
    .andThen (same_modest (waitUntilReady_modest timings)) fun _ _ _ => same_start timings
  refine .andThen (.update (fun _ _ alike => alike.configure config) (.done rfl)) fun _ _ _ => ?_
  split
  · refine .andThen (.update (fun _ _ alike => (alike.addRules rules).disable _) (.done rfl)) fun _ _ _ => ?_
    split
    · exact .andThen same_prehide fun _ _ _ => rest
    · exact rest
  · exact .andThen (same_enter _) fun _ _ _ => .pure rfl

/-! ## Sessions -/

/-- What an engine can be told to do. -/
inductive Operation where
  | setUp (config : EngineConfig) (rules : RuleSet)
  | optOut
  | optIn
  | selfTest

/-- What an engine that is told so does. -/
def Operation.run (timings : Timings) : Operation → Flow Bool
  | .setUp config rules => Engine.setUp timings config rules
  | .optOut => execute timings .optOut
  | .optIn => execute timings .optIn
  | .selfTest => Engine.selfTest timings

/-- Acts that consist of operations, one alone or several side by side, and of what is done to the page from
outside. -/
inductive Operates (timings : Timings) {α : Type} : Act α → Prop where
  | operation (operation : Operation) (write : Bool → α) :
      Operates timings (.flow ((operation.run timings).bind fun result => .done (write result)))
  | stage (act : Snapshot → α × Snapshot) : Operates timings (.stage act)
  | together {acts : List (Act α)} (each : ∀ act ∈ acts, Operates timings act)
      (gather : List (α × Nat) → α) : Operates timings (.together acts gather)

theorem same_operation (timings : Timings) (operation : Operation) :
    Same Eq (operation.run timings) (operation.run timings) := by
  cases operation with
  | setUp config rules => exact same_setUp timings config rules
  | optOut => exact same_execute timings .optOut
  | optIn => exact same_execute timings .optIn
  | selfTest => exact same_selfTest timings

theorem Operates.uniform {timings : Timings} {α : Type} {act : Act α} (operates : Operates timings act) :
    act.Uniform EngineState.Alike := by
  induction operates with
  | operation operation write =>
      exact .flow ((same_operation timings operation).bind fun _ _ same => .done (congrArg write same))
  | stage act => exact .stage act
  | together _ gather ih => exact .together ih gather

structure Indistinct (one two : Rehearsal) : Prop where
  clock : one.world.clock = two.world.clock
  sent : one.world.sent = two.world.sent
  calls : one.world.calls = two.world.calls
  journal : one.world.journal = two.world.journal
  page : one.world.page = two.world.page
  answered : one.answered = two.answered
  phase : one.world.engine.phase = two.world.engine.phase
  found : one.world.engine.found.map Handler.badge = two.world.engine.found.map Handler.badge
  handlers : one.world.engine.handlers.map Handler.badge = two.world.engine.handlers.map Handler.badge

theorem badge_alike {one two : Handler} (alike : one.Alike two) : one.badge = two.badge :=
  Prod.ext alike.slot alike.name

theorem indistinct_alike {one two : Rehearsal} (alike : one.Alike EngineState.Alike two) :
    Indistinct one two := by
  obtain ⟨engine, rest⟩ := alike
  generalize two.world.engine = other at engine rest
  subst rest
  have found : one.world.engine.found.map Handler.badge = other.found.map Handler.badge := by
    have found := engine.found
    generalize one.world.engine.found = mine at found ⊢
    generalize other.found = theirs at found ⊢
    cases found with
    | none => rfl
    | some alike => exact congrArg some (badge_alike alike)
  exact ⟨rfl, rfl, rfl, rfl, rfl, rfl, engine.phase, found, map_alike engine.handlers badge_alike⟩

/-- Failures of handlers are contained. -/
theorem failures_contained (timings : Timings) (page : Snapshot) {plans softer : List Plan}
    (softens : List.Forall₂ Plan.Softens plans softer) (timeline : List (Nat × List Effect))
    (replies : Keyed String Reply) (hasHost : Bool) {α : Type} {acts : List (Nat × Act α)}
    (operates : ∀ entry ∈ acts, Operates timings entry.2) :
    List.Forall₂ (fun one two => one.value = two.value ∧ one.posted = two.posted ∧
        Indistinct one.after two.after)
      ((Rehearsal.start (untouchedPage page plans) timeline replies hasHost).playEach acts)
      ((Rehearsal.start (untouchedPage page softer) timeline replies hasHost).playEach acts) := by
  have initial : EngineState.Alike .initial .initial := ⟨.nil, .none, rfl, rfl, rfl⟩
  have alike : (Rehearsal.start (untouchedPage page plans) timeline replies hasHost).Alike EngineState.Alike
      (Rehearsal.start (untouchedPage page softer) timeline replies hasHost) :=
    ⟨.addAll softens initial, rfl⟩
  have played := Rehearsal.playEach_alike (fun entry member => (operates entry member).uniform) alike
  exact played.imp fun one two same => ⟨same.value, same.posted, indistinct_alike same.after⟩

/-- A handler in which everything fails, detection after some time only. -/
def brokenBanner : ScriptedHandler :=
  { tardyBanner with
    name := "broken"
    script
      | .detect => [.delayed 30 (.failure "not there")]
      | _ => [.failure "broken"] }

/-- A start, a decision and a test, one after the other. -/
def plainSession : List (Nat × Act Bool) :=
  [Operation.setUp .initial .empty, .optOut, .selfTest].map fun operation =>
    (200, .flow ((operation.run .usual).bind fun result => .done result))

theorem failures_contained_broken :
    List.Forall₂ Plan.Softens [.scripted brokenBanner, .scripted tardyBanner]
        ([.scripted brokenBanner, .scripted tardyBanner].map Plan.softened) ∧
      (∀ entry ∈ plainSession, Operates .usual entry.2) ∧
      let page := Snapshot.ofText "<div id=banner></div>"
      let played := (Rehearsal.start (untouchedPage page [.scripted brokenBanner, .scripted tardyBanner])
        [] [] false).playEach plainSession
      played.map (fun act => act.value) = [some true, some true, some true] ∧
      List.Forall₂ (fun one two => one.value = two.value ∧ one.posted = two.posted ∧
          Indistinct one.after two.after) played
        ((Rehearsal.start (untouchedPage page
          ([.scripted brokenBanner, .scripted tardyBanner].map Plan.softened)) [] [] false).playEach
          plainSession) := by
  have softens : List.Forall₂ Plan.Softens [.scripted brokenBanner, .scripted tardyBanner]
      ([.scripted brokenBanner, .scripted tardyBanner].map Plan.softened) :=
    .cons (Plan.softens_softened _) (.cons (Plan.softens_softened _) .nil)
  have operates : ∀ entry ∈ plainSession, Operates .usual entry.2 := by
    intro entry member
    obtain ⟨operation, -, rfl⟩ := List.mem_map.mp member
    exact .operation operation id
  refine ⟨softens, operates, by decide +kernel, ?_⟩
  exact failures_contained .usual _ softens [] [] false operates

end Engine

end ConsentBanner

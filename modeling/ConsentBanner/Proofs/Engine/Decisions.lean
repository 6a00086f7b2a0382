import ConsentBanner.Proofs.Engine.Completion
import ConsentBanner.Proofs.Engine.Outline

/-!
# What a decision comes to

A start leaves the marks of one decision at most (`Engine.performs_setUp`), and what it says there of the handler
is still so when it ends: dialogs that show late neither change who was found nor what a handler remembers.  A
self test leaves the marks of the handler that it finds (`Engine.recites_selfTest`).  So no command begins to decide
in two ways (`Engine.decides_once`).
-/

set_option autoImplicit false

namespace ConsentBanner

open Engine
open Flow (Confined LanesConfined Recites Steps Allowed)

def Handler.begins (handler : Handler) (routine : Routine) : Exchange := ⟨.record ⟨handler.call routine, .begun⟩, ()⟩

def Engine.Decision.marks (decision : Decision) (handler : Handler) (result tests : Bool) (url : String) : List Mark :=
  [.did ⟨handler.call decision.routine, .begun⟩, .did ⟨handler.call decision.routine, .came result⟩,
    .said (decision.report handler.name result tests url)]

/-- The handler that was found has left some marks, and what was said of its self test is so. -/
structure Carried (handler : Handler) (tests : Bool) (left : List Mark) (whole : List Cue) : Prop where
  chose : .chose (some handler) ∈ whole
  told : marks whole = left
  recalls : ∃ memory, Recalls handler.slot memory whole ∧ handler.traits.hasSelfTest memory = tests

/-- Its success completes the page. -/
def Finishes (handler : Handler) (whole : List Cue) : Prop :=
  ∃ memory, Recalls handler.slot memory whole ∧ handler.traits.isIntermediate memory = false

/-- What a start comes to: nothing is decided, nobody was found to carry out the decision, or the handler that
was found has failed, has led to another dialog or has completed the page. -/
inductive Performance : List Cue → Prop where
  | nothing {whole : List Cue} (none : marks whole = []) : Performance whole
  | nobody {whole : List Cue} (decision : Decision) (url : String)
      (told : marks whole = [.said (decision.report nobody false false url)]) : Performance whole
  | failed {decision : Decision} {handler : Handler} {tests : Bool} {url : String} {whole : List Cue}
      (carried : Carried handler tests (decision.marks handler false tests url) whole) : Performance whole
  | leadsOn {decision : Decision} {handler : Handler} {tests : Bool} {url : String} {memory : Memory}
      {whole : List Cue} (carried : Carried handler tests (decision.marks handler true tests url) whole)
      (recalls : Recalls handler.slot memory whole)
      (intermediate : handler.traits.isIntermediate memory = true) : Performance whole
  | completes {decision : Decision} {handler : Handler} {tests : Bool} {url : String} {before after : List Cue}
      (carried : Carried handler tests (decision.marks handler true tests url) before)
      (finishes : Finishes handler before) (calm : ∀ cue ∈ after, cue.IsCalm) :
      Performance (before ++ .mark (.said (.autoconsentDone handler.name url)) :: after)

section Carried

variable {handler : Handler} {tests : Bool} {left : List Mark} {whole : List Cue}

theorem Carried.after {front : List Cue} (aside : ∀ cue ∈ front, cue.IsAside)
    (carried : Carried handler tests left whole) : Carried handler tests left (front ++ whole) := by
  obtain ⟨memory, recalls, is⟩ := carried.recalls
  refine ⟨List.mem_append_right _ carried.chose, ?_, memory, recalls.after front, is⟩
  rw [marks_append, marks_aside aside, carried.told, List.nil_append]

theorem Carried.swells {grown : List Cue} (swells : Swells Cue.IsCalm whole grown)
    (carried : Carried handler tests left whole) : Carried handler tests left grown := by
  obtain ⟨memory, recalls, is⟩ := carried.recalls
  exact ⟨swells.sublist.subset carried.chose, (marks_swells swells).trans carried.told, memory,
    recalls.swells swells, is⟩

/-- One more mark is left, and nobody learns anything more. -/
theorem Carried.more {mark : Mark} {after : List Cue} (calm : ∀ cue ∈ after, cue.IsCalm)
    (carried : Carried handler tests left whole) :
    Carried handler tests (left ++ [mark]) (whole ++ .mark mark :: after) := by
  obtain ⟨memory, recalls, is⟩ := carried.recalls
  refine ⟨List.mem_append_left _ carried.chose, ?_, memory, recalls.append ?_, is⟩
  · rw [marks_append, carried.told, marks_mark, marks_calm calm]
  · simp [unlearned_calm calm]

theorem Finishes.after (front : List Cue) : Finishes handler whole → Finishes handler (front ++ whole)
  | ⟨memory, recalls, final⟩ => ⟨memory, recalls.after front, final⟩

theorem Finishes.swells {grown : List Cue} (swells : Swells Cue.IsCalm whole grown) :
    Finishes handler whole → Finishes handler grown
  | ⟨memory, recalls, final⟩ => ⟨memory, recalls.swells swells, final⟩

end Carried

namespace Performance

theorem after {front whole : List Cue} (aside : ∀ cue ∈ front, cue.IsAside) (performance : Performance whole) :
    Performance (front ++ whole) := by
  have same : marks (front ++ whole) = marks whole := by rw [marks_append, marks_aside aside, List.nil_append]
  cases performance with
  | nothing none => exact .nothing (same.trans none)
  | nobody decision url told => exact .nobody decision url (same.trans told)
  | failed carried => exact .failed (carried.after aside)
  | leadsOn carried recalls intermediate => exact .leadsOn (carried.after aside) (recalls.after front) intermediate
  | completes carried finishes calm =>
      rw [← List.append_assoc]
      exact .completes (carried.after aside) (finishes.after front) calm

theorem swells {lead whole : List Cue} (performance : Performance lead) (swells : Swells Cue.IsCalm lead whole) :
    Performance whole := by
  have same := marks_swells swells
  cases performance with
  | nothing none => exact .nothing (same.trans none)
  | nobody decision url told => exact .nobody decision url (same.trans told)
  | failed carried => exact .failed (carried.swells swells)
  | leadsOn carried recalls intermediate => exact .leadsOn (carried.swells swells) (recalls.swells swells) intermediate
  | completes carried finishes calm =>
      obtain ⟨ahead, behind, rfl, one, two⟩ := swells.split
      refine .completes (carried.swells one) (finishes.swells one) fun cue member => ?_
      rcases two.mem member with old | is
      · exact calm cue old
      · exact is

/-- The page is said to be complete only where the handler that was found has carried a decision out, and that
is all. -/
theorem completed {whole part : List Cue} {cmp place : String} (performance : Performance whole)
    (begun : part <+: whole) (done : .said (.autoconsentDone cmp place) ∈ marks part) :
    ∃ (decision : Decision) (handler : Handler) (tests : Bool) (url : String), Finishes handler part ∧
      Carried handler tests (decision.marks handler true tests url ++ [.said (.autoconsentDone handler.name url)])
        part := by
  have none : ∀ (decision : Decision) (handler : Handler) (result tests : Bool) (url : String),
      .said (.autoconsentDone cmp place) ∉ decision.marks handler result tests url := by
    intro decision handler result tests url
    cases decision <;> simp [Decision.marks, Decision.report]
  have within : .said (.autoconsentDone cmp place) ∈ marks whole := (begun.filterMap _).subset done
  cases performance with
  | nothing told => simp [told] at within
  | nobody decision url told =>
      rw [told] at within
      cases decision <;> simp [Decision.report] at within
  | failed carried => exact (none _ _ _ _ _ (carried.told ▸ within)).elim
  | leadsOn carried _ _ => exact (none _ _ _ _ _ (carried.told ▸ within)).elim
  | @completes decision handler tests url before after carried finishes calm =>
      obtain ⟨rest, split⟩ := begun
      rcases List.append_eq_append_iff.mp split with ⟨more, rfl, -⟩ | ⟨more, rfl, ended⟩
      · have early : .said (.autoconsentDone cmp place) ∈ marks (part ++ more) := by simp [done]
        exact (none _ _ _ _ _ (carried.told ▸ early)).elim
      · cases more with
        | nil =>
            rw [List.append_nil] at done
            exact (none _ _ _ _ _ (carried.told ▸ done)).elim
        | cons first later =>
            obtain ⟨rfl, rfl⟩ := List.cons.inj ended
            have still : ∀ cue ∈ later, cue.IsCalm := fun cue member => calm cue (List.mem_append_left _ member)
            obtain ⟨memory, recalls, final⟩ := finishes
            refine ⟨decision, handler, tests, url, ⟨memory, recalls.append ?_, final⟩, carried.more still⟩
            simp [unlearned_calm still]

/-- Where a self test is scheduled besides, the decision was to opt out, and the handler can test itself. -/
theorem refused {whole part : List Cue} {name url cmp place : String} (performance : Performance whole)
    (begun : part <+: whole) (report : .said (.optOutResult name true true url) ∈ marks part)
    (done : .said (.autoconsentDone cmp place) ∈ marks part) : ∃ (handler : Handler) (url : String),
      Finishes handler part ∧ Carried handler true
        (Decision.optOut.marks handler true true url ++ [.said (.autoconsentDone handler.name url)]) part := by
  obtain ⟨decision, handler, tests, url, finishes, carried⟩ := performance.completed begun done
  rw [carried.told] at report
  cases decision with
  | optOut =>
      obtain ⟨-, rfl, -⟩ : name = handler.name ∧ true = tests ∧ _ = url := by
        simpa [Decision.marks, Decision.report] using report
      exact ⟨handler, url, finishes, carried⟩
  | optIn => simp [Decision.marks, Decision.report] at report

theorem marks_cases {whole : List Cue} (performance : Performance whole) :
    marks whole = [] ∨ (∃ (decision : Decision) (url : String),
      marks whole = [.said (decision.report Engine.nobody false false url)]) ∨
      ∃ (decision : Decision) (handler : Handler) (result tests : Bool) (url : String),
        marks whole = decision.marks handler result tests url ∨
        result = true ∧ marks whole =
          decision.marks handler true tests url ++ [.said (.autoconsentDone handler.name url)] := by
  cases performance with
  | nothing none => exact .inl none
  | nobody decision url told => exact .inr (.inl ⟨decision, url, told⟩)
  | failed carried => exact .inr (.inr ⟨_, _, _, _, _, .inl carried.told⟩)
  | leadsOn carried _ _ => exact .inr (.inr ⟨_, _, _, _, _, .inl carried.told⟩)
  | completes carried _ calm => exact .inr (.inr ⟨_, _, _, _, _, .inr ⟨rfl, (carried.more calm).told⟩⟩)

theorem untested {whole : List Cue} (performance : Performance whole) : ∀ mark ∈ marks whole, mark.isTest = false := by
  have decided : ∀ (decision : Decision) (handler : Handler) (result tests : Bool) (url : String),
      ∀ mark ∈ decision.marks handler result tests url, mark.isTest = false := by
    intro decision handler result tests url
    cases decision <;> simp [Decision.marks, Decision.report, Decision.routine, Handler.call, Mark.isTest]
  rcases performance.marks_cases with none | ⟨decision, url, told⟩ | ⟨decision, handler, result, tests, url, told⟩
  · simp [none]
  · rw [told]
    cases decision <;> simp [Decision.report, Mark.isTest]
  · rcases told with told | ⟨-, told⟩
    · rw [told]
      exact decided decision handler result tests url
    · rw [told]
      exact List.forall_mem_append.mpr ⟨decided decision handler true tests url, by simp [Mark.isTest]⟩

theorem decides {whole : List Cue} (performance : Performance whole) : ∃ chosen : Decision, ∀ (handler : Handler)
    (decision : Decision), .did ⟨handler.call decision.routine, .begun⟩ ∈ marks whole → decision = chosen := by
  have single : ∀ {chosen decision : Decision} {done handler : Handler} {result tests : Bool} {url : String},
      .did ⟨handler.call decision.routine, .begun⟩ ∈ chosen.marks done result tests url → decision = chosen := by
    intro chosen decision done handler result tests url member
    cases chosen <;> cases decision <;>
      simp [Decision.marks, Decision.routine, Decision.report, Handler.call] at member ⊢
  rcases performance.marks_cases with none | ⟨decision, url, told⟩ |
    ⟨chosen, done, result, tests, url, told | ⟨-, told⟩⟩
  · exact ⟨.optOut, fun _ _ member => by simp [none] at member⟩
  · exact ⟨decision, fun _ _ member => by simp [told] at member⟩
  · exact ⟨chosen, fun _ _ member => single (told ▸ member)⟩
  · refine ⟨chosen, fun _ _ member => ?_⟩
    rw [told, List.mem_append] at member
    exact member.elim single (by simp)

/-- Where the handler that was found has opted out, can test itself and does not only lead on, the page is said
to be complete and a self test to be scheduled. -/
theorem schedules {ledger : Ledger} {whole : List Cue} {handler : Handler} (performance : Performance whole)
    (bears : ledger.Bears whole) (found : ledger.engine.found = some handler)
    (refused : .did ⟨handler.call .optOut, .came true⟩ ∈ marks whole)
    (tests : handler.traits.hasSelfTest (ledger.memory handler.slot) = true)
    (final : handler.traits.isIntermediate (ledger.memory handler.slot) = false) :
    ∃ url, marks whole =
      Decision.optOut.marks handler true true url ++ [.said (.autoconsentDone handler.name url)] := by
  -- Whoever carried the decision out is the one that was found.
  have same : ∀ {other : Handler} {tests : Bool} {left : List Mark} {part : List Cue},
      Carried other tests left part → part.Sublist whole → other = handler := by
    intro other tests left part carried within
    exact Option.some.inj ((bears.found other (within.subset carried.chose)).symm.trans found)
  cases performance with
  | nothing told => simp [told] at refused
  | nobody decision url told => simp [told] at refused
  | @failed decision _ _ _ _ carried => cases decision <;> simp [carried.told, Decision.marks] at refused
  | leadsOn carried recalls intermediate =>
      obtain rfl := same carried (.refl _)
      rw [bears.memory _ _ recalls, intermediate] at final
      cases final
  | @completes decision other able url before after carried finishes calm =>
      obtain rfl := same carried (List.sublist_append_left _ _)
      have whole : Carried other able
          (decision.marks other true able url ++ [.said (.autoconsentDone other.name url)]) _ := carried.more calm
      obtain ⟨memory, recalls, is⟩ := whole.recalls
      rw [bears.memory _ _ recalls, is] at tests
      subst tests
      cases decision with
      | optOut => exact ⟨url, whole.told⟩
      | optIn => simp [whole.told, Decision.marks, Decision.routine, Handler.call] at refused

end Performance

/-! ## What is told where -/

theorem Request.Fits.hums {β : Type} {request : Request β} {routine : Routine} (fits : request.Fits routine) :
    request.Hums Exchange.cue? Cue.IsAside := by
  intro reply cue told
  cases request with
  | send _ | state | update _ | resolve _ _ | record _ => cases fits
  | memory _ | remember _ _ =>
      obtain rfl := Option.some.inj told
      rfl
  | _ => cases told

theorem Request.FitsIdly.hums {β : Type} {request : Request β} {routine : Routine} (idly : request.FitsIdly routine) :
    request.Hums Exchange.cue? Cue.IsCalm := by
  intro reply cue told
  cases request with
  | send _ | state | update _ | resolve _ _ | record _ | remember _ _ => cases idly
  | memory _ =>
      obtain rfl := Option.some.inj told
      exact ⟨rfl, nofun⟩
  | _ => cases told

theorem Request.IsSteady.keepsFound {β : Type} {request : Request β} {engaged : Routine → Prop}
    (steady : request.IsSteady engaged) : request.KeepsFound := by
  cases request with
  | update change =>
      intro state handler held
      obtain ⟨phase, is⟩ := steady state
      rw [is]
      exact held
  | _ => trivial

namespace Engine

variable {timings : Timings}

/-- A flow that leaves no mark. -/
abbrev Aside {α : Type} (flow : Flow α) : Prop := flow.Confined (Request.Hums Exchange.cue? Cue.IsAside) true

/-- A flow that leaves no mark and in which no handler learns anything. -/
abbrev Calm {α : Type} (flow : Flow α) : Prop := flow.Confined (Request.Hums Exchange.cue? Cue.IsCalm) true

/-- A flow of which nothing matters. -/
abbrev Still {α : Type} (flow : Flow α) : Prop := flow.Confined (Request.Silent Exchange.cue?) true

theorem Still.calm {α : Type} {flow : Flow α} (still : Still flow) : Calm flow :=
  (still.weaken fun _ silent => silent.hums _).1

theorem Calm.aside {α : Type} {flow : Flow α} (calm : Calm flow) : Aside flow :=
  (calm.weaken fun _ hums reply cue told => (hums reply cue told).1).1

theorem still_update (change : EngineState → EngineState) : Still (update change) := .request (fun _ => rfl) trivial

theorem still_cmpDetected (url cmp : String) : Still (Flow.send (.cmpDetected url cmp)) :=
  .request (fun _ => rfl) trivial

theorem still_url : Still Primitive.url := .ask (fun _ => rfl) _

theorem calm_state : Calm state := by
  refine .request (fun reply cue told => ?_) trivial
  obtain rfl := Option.some.inj told
  exact ⟨rfl, nofun⟩

theorem calm_undoPrehide : Calm undoPrehide :=
  .andThen calm_state fun _ =>
    .ite (.andThen (.ask (fun _ _ => nofun) _) fun _ => .pure _) (.pure _)

theorem hums_record {kind : Cue → Prop} {call : HandlerCall} (acts : call.routine.acts = false) (progress : Progress) :
    (Request.record ⟨call, progress⟩).Hums Exchange.cue? kind := by
  intro reply cue told
  simp [Exchange.cue?, acts] at told

theorem aside_preparation (config : EngineConfig) (rules : RuleSet) : Aside (preparation timings config rules) := by
  have waits : Aside (waitUntilReady timings) :=
    (((waitUntilReady_modest timings).fits .detect).weaken fun _ fits => fits.hums).1
  have hides : Aside prehide := .andThen calm_state.aside fun _ => .addRule fun _ _ => nofun
  exact .andThen (still_update _).calm.aside fun _ => .andThen (still_update _).calm.aside fun _ =>
    .ite (.andThen hides fun _ => waits) waits

theorem aside_findCandidates (retries : Nat) : Aside (findCandidates timings retries) :=
  confined_findCandidates timings (fun _ fits => fits.hums) (fun _ => hums_record rfl)
    (fun _ _ told => Option.some.inj told ▸ rfl) (fun _ _ _ => nofun) retries

theorem calm_candidateLane (url : String) (handler : Handler) : Calm (candidateLane timings url handler) :=
  confined_candidateLane timings url (fun _ idly => idly.hums) (hums_record rfl) (fun _ _ => nofun)
    fun _ _ _ => nofun

/-! ## What a flow leaves marks of -/

theorem recites_state : state.Recites Exchange.cue? fun known whole => whole = [.chose known.found] :=
  .request fun _ => rfl

theorem recites_memoryOf (slot : Nat) :
    (memoryOf slot).Recites Exchange.cue? fun memory whole => whole = [.recalled slot memory] :=
  .request fun _ => rfl

theorem recites_send {message : Outbound} (milestone : message.isMilestone = true) :
    (Flow.send message).Recites Exchange.cue? fun _ whole => whole = [.mark (.said message)] := by
  refine .request fun _ => ?_
  exact List.filterMap_cons_some (if_pos milestone)

theorem recites_record (call : HandlerCall) (acts : call.routine.acts = true) (progress : Progress) :
    (Flow.request (.record ⟨call, progress⟩)).Recites Exchange.cue? fun _ whole =>
      whole = [.mark (.did ⟨call, progress⟩)] := by
  refine .request fun _ => ?_
  exact List.filterMap_cons_some (if_pos acts)

/-- What the engine has a handler do leaves a mark before and one after. -/
theorem recites_noted {kind : Cue → Prop} {handler : Handler} {routine : Routine} (acts : routine.acts = true)
    (runs : (handler.run timings routine).run.Confined (Request.Hums Exchange.cue? kind) true) :
    (handler.attempt timings routine).Recites Exchange.cue? fun value whole => ∃ work, (∀ cue ∈ work, kind cue) ∧
      whole = [.mark (.did ⟨handler.call routine, .begun⟩)] ++
        (work ++ [.mark (.did ⟨handler.call routine, .came value⟩)]) := by
  have : Nonempty (Except ConsentError Bool) := ⟨.ok true⟩
  refine .andThen (recites_record (handler.call routine) acts .begun) fun _ _ told => ?_
  subst told
  refine .andThen (.hums runs) fun result work hums => ?_
  refine .andThen (recites_record (handler.call routine) acts _) fun _ _ told => .done ?_
  subst told
  exact ⟨work, hums, rfl⟩

/-- What is told when the handler that was found, if there is one, carries a decision out. -/
def Tried (routine : Routine) (result : Bool) (whole : List Cue) : Option Handler → Prop
  | none => result = false ∧ whole = []
  | some handler => ∃ work, (∀ cue ∈ work, cue.IsAside) ∧
      whole = [.mark (.did ⟨handler.call routine, .begun⟩)] ++
        (work ++ [.mark (.did ⟨handler.call routine, .came result⟩)])

theorem recites_attempt (found : Option Handler) {routine : Routine} (acts : routine.acts = true) :
    (attempt timings found routine).Recites Exchange.cue? fun result whole => Tried routine result whole found := by
  cases found with
  | none => exact .done ⟨rfl, rfl⟩
  | some handler =>
      exact recites_noted acts ((handler.run_fits timings routine).weaken fun _ fits => fits.hums).1

/-- What is told when the handler that was found, if there is one, is asked what it is like. -/
def Asked (property : Traits → Memory → Bool) (holds : Bool) (whole : List Cue) : Option Handler → Prop
  | none => holds = false ∧ whole = []
  | some handler => ∃ memory, holds = property handler.traits memory ∧ whole = [.recalled handler.slot memory]

theorem recites_holds (found : Option Handler) (property : Traits → Memory → Bool) :
    (holds found fun handler => do return property handler.traits (← memoryOf handler.slot)).Recites
      Exchange.cue? fun value whole => Asked property value whole found := by
  cases found with
  | none => exact .done ⟨rfl, rfl⟩
  | some handler =>
      refine .andThen (recites_memoryOf handler.slot) fun memory _ told => .done ?_
      subst told
      exact ⟨memory, rfl, rfl⟩

theorem carried_of_tried {decision : Decision} {handler : Handler} {result tests : Bool} {url : String}
    {tried undone asked : List Cue} (attempted : Tried decision.routine result tried (some handler))
    (calm : ∀ cue ∈ undone, cue.IsCalm) (answered : Asked Traits.hasSelfTest tests asked (some handler)) :
    Carried handler tests (decision.marks handler result tests url) ([.chose (some handler)] ++ (tried ++ (undone ++
      (asked ++ [.mark (.said (decision.report handler.name result tests url))])))) := by
  obtain ⟨work, aside, rfl⟩ := attempted
  obtain ⟨memory, rfl, rfl⟩ := answered
  refine ⟨List.mem_append_left _ List.mem_cons_self, ?_, memory, ?_, rfl⟩
  · simp [marks_aside aside, marks_calm calm, Decision.marks]
  · refine .after _ (.after _ (.after _ ⟨[], _, rfl, ?_⟩))
    simp

theorem calm_finish (result : Bool) : Calm (do enter .done; return result) :=
  .andThen (still_update _).calm fun _ => .pure _

/-- After its report, a decision that was successful and final completes the page. -/
theorem performs_ending {decision : Decision} {handler : Handler} {result tests : Bool} {url : String}
    {reported : List Cue} (carried : Carried handler tests (decision.marks handler result tests url) reported) :
    (do
      if result then
        if ← holds (some handler) fun handler => do return !(← handler.isIntermediate) then
          Flow.send (.autoconsentDone handler.name url)
      enter .done
      return result : Flow Bool).Recites Exchange.cue? fun _ rest => Performance (reported ++ rest) := by
  cases result with
  | false =>
      exact (Recites.hums (calm_finish false)).imp fun _ rest still => .failed (carried.swells (.before still _))
  | true =>
      refine .andThen (recites_holds (some handler) fun traits memory => !traits.isIntermediate memory)
        fun completes _ answered => ?_
      obtain ⟨memory, is, rfl⟩ := answered
      have recalled : ∀ cue ∈ [Cue.recalled handler.slot memory], cue.IsCalm := by simp [Cue.IsCalm, Cue.mark?]
      have recalls : Recalls handler.slot memory (reported ++ [.recalled handler.slot memory]) :=
        ⟨reported, [], rfl, List.not_mem_nil⟩
      have asked := carried.swells (.before recalled reported)
      cases completes with
      | true =>
          refine .andThen (recites_send rfl) fun _ _ told => ?_
          subst told
          refine (Recites.hums (calm_finish true)).imp fun _ rest still => ?_
          have whole := Performance.completes asked ⟨memory, recalls, by simpa using is.symm⟩ still
          rwa [List.append_assoc] at whole
      | false =>
          refine (Recites.hums (calm_finish true)).imp fun _ rest still => ?_
          rw [← List.append_assoc]
          refine .leadsOn (asked.swells (.before still _)) (recalls.swells (.before still _)) ?_
          simpa using is.symm

theorem performs_execute (decision : Decision) :
    (execute timings decision).Recites Exchange.cue? fun _ whole => Performance whole := by
  have acts : decision.routine.acts = true := by cases decision <;> rfl
  have milestone : ∀ cmp result tests url, (decision.report cmp result tests url).isMilestone = true := by
    cases decision <;> exact fun _ _ _ _ => rfl
  refine .afterSilence (still_update _) fun _ => .andThen recites_state fun known _ told => ?_
  subst told
  generalize known.found = found
  refine .andThen (recites_attempt found acts) fun result tried attempted => ?_
  refine .andThen (.hums calm_undoPrehide) fun _ undone calm => .afterSilence (still_update _) fun _ => ?_
  refine .afterSilence still_url fun url => ?_
  refine .andThen (recites_holds found Traits.hasSelfTest) fun tests asked answered => ?_
  refine .andThen (recites_send (milestone _ _ _ _)) fun _ _ told => ?_
  subst told
  cases found with
  | none =>
      obtain ⟨rfl, rfl⟩ := attempted
      obtain ⟨rfl, rfl⟩ := answered
      refine (Recites.hums (calm_finish false)).imp fun _ rest still => .nobody decision url ?_
      simp [marks_calm calm, marks_calm still, reportedName]
  | some handler =>
      have carried : Carried handler tests (decision.marks handler result tests url) _ :=
        carried_of_tried attempted calm answered
      refine (performs_ending carried).imp fun _ rest performance => ?_
      simpa [reportedName] using performance

theorem performs_decide (action : AutoAction) :
    (decide timings action).Recites Exchange.cue? fun _ whole => Performance whole := by
  refine .afterSilence (still_update _) fun _ => ?_
  cases action with
  | optOut => exact performs_execute .optOut
  | optIn => exact performs_execute .optIn
  | doNothing => exact .afterSilence (still_update _) fun _ => .done (.nothing rfl)

theorem calm_giveUp (phase : Phase) : Calm (giveUp phase) :=
  .andThen (still_update _).calm fun _ => .andThen calm_undoPrehide fun _ => .pure _

theorem performs_react (action : AutoAction) (candidates : List Handler) :
    (react timings action candidates).Recites Exchange.cue? fun _ whole => Performance whole := by
  have reports : ∀ url, Still (Flow.each (fun handler => Flow.send (.cmpDetected url handler.name)) candidates) :=
    fun url => .each (fun handler : Handler => still_cmpDetected url handler.name) _
  unfold react
  split
  · exact (Recites.hums (calm_giveUp _)).imp fun _ whole calm => .nothing (marks_calm calm)
  · refine .afterSilence still_url fun url => .afterSilence (reports url) fun _ => ?_
    refine .afterSilence (still_update _) fun _ => ?_
    have lanes : LanesConfined (Request.Hums Exchange.cue? Cue.IsCalm) true
        (candidates.map (candidateLane timings url)) := by
      refine Flow.lanesConfined_iff.mpr fun lane member => ?_
      obtain ⟨handler, -, rfl⟩ := List.mem_map.mp member
      exact calm_candidateLane url handler
    -- Dialogs that show late do not disturb the one that is acted upon.
    have raced : (Flow.race (candidates.map (candidateLane timings url)) false (decide timings action)
        .done).Recites Exchange.cue? fun outcome whole =>
          outcome.elim (∀ cue ∈ whole, cue.IsCalm) fun _ => Performance whole :=
      .race lanes (performs_decide action) (fun _ calm => calm)
        fun _ _ _ performance swells => performance.swells swells
    refine raced.bind fun outcome one told => ?_
    cases outcome with
    | none =>
        refine (Recites.hums (calm_giveUp _)).imp fun _ rest calm => .nothing ?_
        rw [marks_append, marks_calm told, marks_calm calm, List.append_nil]
    | some acted =>
        refine .done ?_
        rwa [List.append_nil]

theorem performs_start : (start timings).Recites Exchange.cue? fun _ whole => Performance whole := by
  rw [start_eq]
  refine .andThen (.hums calm_state.aside) fun known one aside => .afterSilence (still_update _) fun _ => ?_
  refine .andThen (.hums (aside_findCandidates _)) fun candidates two silent => ?_
  exact (performs_react _ candidates).imp fun _ rest performance => (performance.after silent).after aside

theorem performs_setUp (config : EngineConfig) (rules : RuleSet) :
    (setUp timings config rules).Recites Exchange.cue? fun _ whole => Performance whole := by
  cases enabled : config.enabled with
  | true =>
      rw [setUp_enabled rules enabled]
      refine .andThen (.hums (aside_preparation config rules)) fun _ one aside => ?_
      exact performs_start.imp fun _ rest performance => performance.after aside
  | false =>
      unfold setUp
      rw [enabled]
      exact .afterSilence (still_update _) fun _ => .afterSilence (still_update _) fun _ => .done (.nothing rfl)

/-- What a self test comes to: the handler that was found says whether the decision had effect. -/
def Trial (whole : List Cue) : Prop :=
  ∃ found rest value url, whole = .chose found :: rest ∧ .learned ∉ rest ∧
    marks rest = (found.elim [] fun handler =>
      [.did ⟨handler.call .selfTest, .begun⟩, .did ⟨handler.call .selfTest, .came value⟩]) ++
        [.said (.selfTestResult (reportedName found) value url)]

theorem recites_selfTest : (selfTest timings).Recites Exchange.cue? fun _ whole => Trial whole := by
  have tries : ∀ found, (attempt timings found .selfTest).Recites Exchange.cue? fun value whole =>
      .learned ∉ whole ∧ marks whole = found.elim [] fun handler =>
        [.did ⟨handler.call .selfTest, .begun⟩, .did ⟨handler.call .selfTest, .came value⟩] := by
    intro found
    cases found with
    | none => exact .done ⟨List.not_mem_nil, rfl⟩
    | some handler =>
        have runs : (handler.run timings .selfTest).run.Confined (Request.FitsIdly .selfTest) true :=
          handler.run_idly timings rfl
        refine (recites_noted rfl (runs.weaken fun _ idly => idly.hums).1).imp fun value whole told => ?_
        obtain ⟨work, calm, rfl⟩ := told
        simp [marks_calm calm, unlearned_calm calm]
  refine .andThen recites_state fun known _ told => ?_
  subst told
  refine .andThen (tries known.found) fun value tried told => ?_
  obtain ⟨unlearned, marked⟩ := told
  refine .afterSilence still_url fun url => .andThen (recites_send rfl) fun _ _ told => .done ?_
  subst told
  refine ⟨known.found, _, value, url, rfl, ?_, ?_⟩
  · simp [unlearned]
  · simp [marked]

theorem recites_announce : announce.Recites Exchange.cue? fun _ whole =>
    ∃ url, whole = [.mark (.said (.init url))] :=
  .afterSilence still_url fun url => (recites_send rfl).imp fun _ _ told => ⟨url, told⟩

/-! ## What is decided -/

/-- Whatever a command decides, it does not decide anything else. -/
theorem decides_once {command : Inbound} {story : List Exchange} {after : Flow Unit}
    (steps : Steps (receive timings command) story after) :
    ∃ chosen : Decision, (command = .optOut → chosen = .optOut) ∧ ∀ (handler : Handler) (decision : Decision),
      handler.begins decision.routine ∈ story → decision = chosen := by
  -- Commands that are no start engage handlers in one routine.
  have engaged : ∀ {flow : Flow Bool} {routine : Routine}, Steady (· = routine) flow →
      Steps (flow.bind fun _ => .done ()) story after → ∀ (handler : Handler) (decision : Decision),
        handler.begins decision.routine ∈ story → decision.routine = routine := by
    intro flow routine steady steps handler decision begun
    exact (steps.confined (.andThen steady fun _ => .done ())).2 _ begun
  cases command with
  | optOut =>
      refine ⟨.optOut, fun _ => rfl, fun handler decision begun => ?_⟩
      have is := engaged (steady_execute timings rfl) steps handler decision begun
      cases decision <;> trivial
  | optIn =>
      refine ⟨.optIn, nofun, fun handler decision begun => ?_⟩
      have is := engaged (steady_execute timings rfl) steps handler decision begun
      cases decision <;> trivial
  | selfTest =>
      refine ⟨.optIn, nofun, fun handler decision begun => ?_⟩
      have is := engaged (steady_selfTest timings rfl) steps handler decision begun
      cases decision <;> cases is
  | evalResponse id result =>
      refine ⟨.optIn, nofun, fun handler decision begun => ?_⟩
      have silent : (receive timings (.evalResponse id result)).Confined (Request.Engages fun _ => False) true :=
        .andThen (.request trivial trivial) fun _ => .pure _
      exact ((steps.confined silent).2 _ begun).elim
  | initResponse config rules =>
      have only : (receive timings (.initResponse config rules)).Recites Exchange.cue? fun _ whole =>
          Performance whole := (performs_setUp config rules).andThen fun _ one told =>
        .done ((List.append_nil one).symm ▸ told)
      obtain ⟨_, whole, performance, told⟩ := only.begun steps
      obtain ⟨chosen, same⟩ := performance.decides
      refine ⟨chosen, nofun, fun handler decision begun => same handler decision ((told.filterMap _).subset ?_)⟩
      have cue : .mark (.did ⟨handler.call decision.routine, .begun⟩) ∈ outline story :=
        List.mem_filterMap.mpr ⟨_, begun, by cases decision <;> rfl⟩
      exact List.mem_filterMap.mpr ⟨_, cue, rfl⟩

/-! ## Who was found -/

theorem keepsFound_setUp (config : EngineConfig) (rules : RuleSet) :
    (setUp timings config rules).Confined Request.KeepsFound true := by
  refine confined_setUp timings config rules (fun _ steady => steady.keepsFound) (fun handler state other held => ?_)
    (fun _ _ held => held) (fun state handler held => ?_) fun _ _ _ => trivial
  · rw [EngineState.found_confirm, held]
    rfl
  · exact ((EngineState.sameButRoster_addRules rules state).found).trans held

end Engine

end ConsentBanner

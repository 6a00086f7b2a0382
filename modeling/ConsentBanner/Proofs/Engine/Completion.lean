import ConsentBanner.Proofs.Engine.SetUp
import ConsentBanner.Proofs.Engine.Steady
import ConsentBanner.Proofs.Rehearsal.Playing

/-!
# A start completes

Nothing that the engine does waits for anything but time in the end, so that a start on a page on which
nothing has happened yet completes, whatever its handlers do and however page and host behave.
-/

set_option autoImplicit false

namespace ConsentBanner

/-- Requests that the engine makes: all but to hand in answers, which is for the host. -/
def Request.IsOwn : {β : Type} → Request β → Prop
  | _, .resolve _ _ => False
  | _, _ => True

theorem Request.IsSteady.own {β : Type} {request : Request β} {engaged : Routine → Prop}
    (steady : request.IsSteady engaged) : request.IsOwn := by
  cases request with
  | resolve _ _ => exact steady
  | _ => trivial

namespace Engine

/-- A flow of the engine that waits for nothing but time in the end. -/
abbrev Alone {α : Type} (flow : Flow α) : Prop := flow.Confined Request.IsOwn true

theorem alone_steady {α : Type} {flow : Flow α} (steady : Steady (fun _ => True) flow) : Alone flow :=
  (steady.weaken fun _ steady => steady.own).1

section React

variable {may : Allowance} {engaged : Routine → Prop} (timings : Timings) (action : AutoAction)

theorem confined_candidateLane (url : String) {handler : Handler}
    (looks : ∀ {β : Type} (request : Request β), request.FitsIdly .popup → may request)
    (records : ∀ progress, may (.record ⟨handler.call .popup, progress⟩))
    (confirms : may (.update fun state => state.confirm handler))
    (sends : ∀ name, may (.send (.popupFound name url))) :
    (candidateLane timings url handler).Confined may true := by
  have attempted := confined_noted timings ((handler.run_idly timings rfl).weaken looks).1 records
  refine .andThen (.poll _ attempted _) fun yes => .ite ?_ (.pure _)
  exact .andThen (.andThen (.request confirms trivial) fun _ => .request (sends _) trivial) fun _ => .pure _

/-- Beside looking for dialogs and confirming candidates, all that the engine does is steady. -/
theorem confined_react {candidates : List Handler} (engages : ∀ decision : Decision, engaged decision.routine)
    (steady : ∀ {β : Type} (request : Request β), request.IsSteady engaged → may request)
    (looks : ∀ {β : Type} (request : Request β), request.Fits .popup → may request)
    (records : ∀ handler ∈ candidates, ∀ progress, may (.record ⟨handler.call .popup, progress⟩))
    (confirms : ∀ handler ∈ candidates, may (.update fun state => state.confirm handler)) :
    (react timings action candidates).Confined may true := by
  have calmly : ∀ {α : Type} {flow : Flow α}, Steady engaged flow → flow.Confined may true :=
    fun does => (does.weaken steady).1
  refine .ite (calmly (steady_giveUp _)) (.andThen (calmly steady_url) fun url => ?_)
  refine .andThen (.each (fun _ => calmly (steady_send _)) _) fun _ => ?_
  refine .andThen (calmly (steady_enter _)) fun _ =>
    ⟨Flow.lanesConfined_iff.mpr fun lane member => ?_, calmly (steady_decide timings _ engages),
      fun outcome => ?_⟩
  · obtain ⟨handler, within, rfl⟩ := List.mem_map.mp member
    exact confined_candidateLane timings url (fun _ idly => looks _ idly.fits) (records handler within)
      (confirms handler within) fun _ => steady _ trivial
  · cases outcome with
    | none => exact calmly (steady_giveUp _)
    | some acted => exact .pure _

end React

section SetUp

variable {may : Allowance} (timings : Timings)

theorem confined_start
    (steady : ∀ {β : Type} (request : Request β), request.IsSteady (fun _ => True) → may request)
    (confirms : ∀ handler : Handler, may (.update fun state => state.confirm handler)) :
    (start timings).Confined may true := by
  have calmly : ∀ {α : Type} {flow : Flow α}, Steady (fun _ => True) flow → flow.Confined may true :=
    fun does => (does.weaken steady).1
  refine .andThen (calmly steady_state) fun known => .andThen (calmly (steady_enter _)) fun _ => ?_
  refine .andThen (calmly (steady_findCandidates timings trivial _)) fun candidates => ?_
  exact @confined_react _ (fun _ => True) timings known.config.autoAction _ (fun _ => trivial) steady
    (fun request fits => steady request (fits.steady trivial)) (fun _ _ _ => steady _ trivial)
    fun handler _ => confirms handler

/-- Before that, configuration and handlers change. -/
theorem confined_setUp (config : EngineConfig) (rules : RuleSet)
    (steady : ∀ {β : Type} (request : Request β), request.IsSteady (fun _ => True) → may request)
    (confirms : ∀ handler : Handler, may (.update fun state => state.confirm handler))
    (configures : may (.update fun state => { state with config := config }))
    (registers : may (.update fun state => (state.addRules rules).disable config.disabledCmps))
    (hides : config.enabled = true → config.enablePrehide = true →
      ∀ css, may (.page (.appendStyle Hiding.passingStyle css))) :
    (setUp timings config rules).Confined may true := by
  have calmly : ∀ {α : Type} {flow : Flow α}, Steady (fun _ => True) flow → flow.Confined may true :=
    fun does => (does.weaken steady).1
  have rest : (do waitUntilReady timings; start timings : Flow Bool).Confined may true :=
    .andThen (calmly (steady_modest (waitUntilReady_modest timings))) fun _ =>
      confined_start timings steady confirms
  refine .andThen (.request configures trivial) fun _ => ?_
  split
  next enabled =>
    refine .andThen (.request registers trivial) fun _ => ?_
    split
    next prehides =>
      refine .andThen (.andThen (calmly steady_state) fun _ => ?_) fun _ => rest
      exact .addRule (hides enabled prehides _)
    next => exact rest
  next => exact .andThen (calmly (steady_enter _)) fun _ => .pure _

end SetUp

theorem alone_start (timings : Timings) : Alone (start timings) :=
  confined_start timings (fun _ steady => steady.own) fun _ => trivial

theorem alone_setUp (timings : Timings) (config : EngineConfig) (rules : RuleSet) :
    Alone (setUp timings config rules) :=
  confined_setUp timings config rules (fun _ steady => steady.own) (fun _ => trivial) trivial trivial
    fun _ _ _ => trivial

/-- A page on which nothing has happened yet, with the handlers of some plans. -/
def untouchedPage (page : Snapshot) (plans : List Plan) : World :=
  { World.start page with engine := plans.foldl EngineState.add .initial }

theorem isFresh_untouchedPage (page : Snapshot) (plans : List Plan) :
    (untouchedPage page plans).ledger.IsFresh :=
  ⟨(EngineState.sameButRoster_addAll plans .initial).found, rfl, rfl⟩

/-- A start on an untouched page completes, and in whatever order its flows take their turns, it prepares
itself, looks for candidates and reacts to those that it found. -/
theorem setUp_completes (timings : Timings) (page : Snapshot) (plans : List Plan) (rules : RuleSet)
    (timeline : List (Nat × List Effect)) (replies : Keyed String Reply) (hasHost : Bool)
    {config : EngineConfig} (enabled : config.enabled = true) :
    (Rehearsal.start (untouchedPage page plans) timeline replies hasHost).Plays
        (setUp timings config rules) ∧
      ∀ result last, Flow.Turns (setUp timings config rules) (untouchedPage page plans).ledger
        (.done result) last → ∃ candidates before after,
          Flow.Turns (opening timings config rules) (untouchedPage page plans).ledger (.done config) before ∧
          Flow.Turns (findCandidates timings config.detectRetries) before (.done candidates) after ∧
          Flow.Turns (react timings config.autoAction candidates) after (.done result) last ∧
          (candidates.map Handler.slot).Nodup ∧
          Reacted timings config.autoAction candidates result last := by
  refine ⟨Rehearsal.plays _ (alone_setUp timings config rules), fun result last turns => ?_⟩
  exact setUp_ends timings rules enabled (isFresh_untouchedPage page plans)
    (EngineState.slotted_initial.addAll plans) turns

/-- A handler whose dialog shows when it is looked for again, and that lets itself be refused. -/
def tardyBanner : ScriptedHandler where
  name := "banner"
  context := .topFrameOnly
  prehideSelectors := []
  isIntermediate := false
  hasSelfTest := false
  isMinimal := false
  script
    | .popup => [.failure "not yet", .delayed 100 (.reply true)]
    | _ => [.reply true]

theorem setUp_completes_tardy : (EngineConfig.initial).enabled = true ∧
    (Rehearsal.start (untouchedPage (.ofText "<div id=banner></div>") [.scripted tardyBanner]) [] []
      false).Plays (setUp .usual .initial .empty) :=
  ⟨rfl, (setUp_completes .usual (.ofText "<div id=banner></div>") [.scripted tardyBanner] .empty [] [] false
    rfl).1⟩

end Engine

end ConsentBanner

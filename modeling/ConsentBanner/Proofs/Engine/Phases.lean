import ConsentBanner.Proofs.Engine.Exclusion
import ConsentBanner.Proofs.Flow.Recital

/-!
# How far the engine comes

Several commands may be carried out side by side, and all that begin something write the same phase.  What
a command writes follows a script (`Engine.recites_setUp`), and whoever wrote last decides: when nothing is
being carried out any more, the engine has come to an end, or nothing was ever begun.  Main statement:
`Life.comes_to_rest`.
-/

set_option autoImplicit false

namespace ConsentBanner

open Engine
open Flow (Confined LanesConfined Recites Steps Allowed)

namespace Phase

/-- Nothing is going on in this phase. -/
def IsFinal (phase : Phase) : Prop := phase ∈ [idle, noneFound, noPopup, done]

instance : DecidablePred IsFinal := fun phase =>
  inferInstanceAs (Decidable (phase ∈ [idle, noneFound, noPopup, done]))

/-- The ways on which one start comes from the first phase to its last one. -/
def paths (enabled : Bool) : List (List Phase) :=
  if enabled then
    [[idle, detecting, noneFound],
     [idle, detecting, confirming, noPopup],
     [idle, detecting, confirming, deciding, done],
     [idle, detecting, confirming, deciding, executing, reporting, done]]
  else [[idle, done]]

end Phase

def EngineState.after (state : EngineState) : Exchange → EngineState
  | ⟨.update change, _⟩ => change state
  | _ => state

/-- The phases of an engine in the course of a story, each once as long as it lasts. -/
def EngineState.phases (state : EngineState) : List Exchange → List Phase
  | [] => [state.phase]
  | exchange :: rest =>
    if (state.after exchange).phase = state.phase then (state.after exchange).phases rest
    else state.phase :: (state.after exchange).phases rest

/-- A change of the engine comes to this phase, whatever it was before. -/
def ComesTo (change : EngineState → EngineState) (phase : Phase) : Prop := ∀ state, (change state).phase = phase

open Classical in
/-- The phase that a request comes to, if it does not keep the one before.  The first phase stands for
anything else, since the engine never comes back to it. -/
noncomputable def Exchange.entered? : Exchange → Option Phase
  | ⟨.update change, _⟩ =>
    if ∀ state, (change state).phase = state.phase then none
    else if comes : ∃ phase, ComesTo change phase then some comes.choose else some .idle
  | _ => none

theorem entered?_of_keeps {change : EngineState → EngineState}
    (keeps : ∀ state, (change state).phase = state.phase) :
    Exchange.entered? ⟨.update change, ()⟩ = none := if_pos keeps

theorem entered?_of_comesTo {change : EngineState → EngineState} {phase : Phase} (comes : ComesTo change phase)
    (later : phase ≠ .idle) : Exchange.entered? ⟨.update change, ()⟩ = some phase := by
  have moves : ¬∀ state, (change state).phase = state.phase := by
    intro keeps
    exact later ((comes .initial).symm.trans (keeps .initial))
  have some' : ∃ phase, ComesTo change phase := ⟨phase, comes⟩
  have same : some'.choose = phase := (some'.choose_spec .initial).symm.trans (comes .initial)
  simp only [Exchange.entered?, if_neg moves, dif_pos some', same]

/-- What an exchange does to the phase can be read off, unless the first phase is noted. -/
theorem phase_after {exchange : Exchange} (proper : exchange.entered? ≠ some .idle) (state : EngineState) :
    (state.after exchange).phase = exchange.entered?.getD state.phase := by
  obtain ⟨request, reply⟩ := exchange
  cases request with
  | update change =>
      by_cases keeps : ∀ state, (change state).phase = state.phase
      · rw [entered?_of_keeps keeps]
        exact keeps state
      · by_cases comes : ∃ phase, ComesTo change phase
        · have told : Exchange.entered? ⟨.update change, reply⟩ = some comes.choose := by
            simp only [Exchange.entered?, if_neg keeps, dif_pos comes]
          rw [told]
          exact comes.choose_spec state
        · have told : Exchange.entered? ⟨.update change, reply⟩ = some .idle := by
            simp only [Exchange.entered?, if_neg keeps, dif_neg comes]
          exact absurd told proper
  | _ => rfl

theorem Ledger.MayReply.engine {exchange : Exchange} {before after : Ledger}
    (replied : before.MayReply exchange.request exchange.reply after) :
    after.engine = before.engine.after exchange := by
  obtain ⟨request, reply⟩ := exchange
  rw [replied.eq_upon]
  cases request <;> rfl

noncomputable abbrev entered (story : List Exchange) : List Phase := cues Exchange.entered? story

/-- Whoever comes to a phase last decides. -/
theorem Ledger.Follows.phase {story : List Exchange} {after : Ledger} : ∀ {before : Ledger},
    before.Follows story after → .idle ∉ entered story →
      after.engine.phase = (entered story).getLast?.getD before.engine.phase := by
  induction story with
  | nil =>
      rintro before rfl -
      rfl
  | cons exchange rest ih =>
      rintro before ⟨between, replied, follows⟩ proper
      cases told : exchange.entered? with
      | none =>
          have same : entered (exchange :: rest) = entered rest := List.filterMap_cons_none told
          rw [same] at proper ⊢
          rw [ih follows proper, replied.engine, phase_after (by rw [told]; nofun), told]
          rfl
      | some phase =>
          have more : entered (exchange :: rest) = phase :: entered rest := List.filterMap_cons_some told
          rw [more] at proper ⊢
          obtain ⟨first, later⟩ := not_or.mp (mt List.mem_cons.mpr proper)
          have here : exchange.entered? ≠ some .idle := by
            rw [told]
            exact fun idle => first (Option.some.inj idle).symm
          rw [ih follows later, replied.engine, phase_after here, told, List.getLast?_cons]
          rfl

/-- Where no phase comes twice, the phases are those that the story comes to. -/
theorem phases_eq {story : List Exchange} : ∀ {state : EngineState}, .idle ∉ entered story →
    (state.phase :: entered story).Nodup → state.phases story = state.phase :: entered story := by
  induction story with
  | nil => exact fun _ _ => rfl
  | cons exchange rest ih =>
      intro state proper distinct
      rw [EngineState.phases]
      cases told : exchange.entered? with
      | none =>
          have same : entered (exchange :: rest) = entered rest := List.filterMap_cons_none told
          have stays : (state.after exchange).phase = state.phase := by
            rw [phase_after (by rw [told]; nofun), told]
            rfl
          rw [same] at proper distinct ⊢
          rw [if_pos stays, ← stays]
          exact ih proper (stays.symm ▸ distinct)
      | some phase =>
          have more : entered (exchange :: rest) = phase :: entered rest := List.filterMap_cons_some told
          rw [more] at proper distinct ⊢
          obtain ⟨first, later⟩ := not_or.mp (mt List.mem_cons.mpr proper)
          obtain ⟨apart, distinct⟩ := List.nodup_cons.mp distinct
          have comes : (state.after exchange).phase = phase := by
            rw [phase_after (by rw [told]; exact fun idle => first (Option.some.inj idle).symm), told]
            rfl
          have moves : (state.after exchange).phase ≠ state.phase := by
            rw [comes]
            rintro rfl
            exact apart List.mem_cons_self
          rw [if_neg moves, ih later (comes.symm ▸ distinct), comes]

/-! ## What is written where -/

namespace Engine

variable {timings : Timings}

abbrev Unmoved {α : Type} (flow : Flow α) : Prop := flow.Confined (Request.Silent Exchange.entered?) true

theorem silent_fits {β : Type} {request : Request β} {routine : Routine} (fits : request.Fits routine) :
    request.Silent Exchange.entered? := by
  intro reply
  cases request with
  | update change => cases fits
  | _ => rfl

theorem unmoved_modest {α : Type} {flow : Flow α} (modest : flow.Modest) : Unmoved flow :=
  ((modest.fits .detect).weaken fun _ => silent_fits).1

theorem unmoved_update {change : EngineState → EngineState} (keeps : ∀ state, (change state).phase = state.phase) :
    Unmoved (update change) := .request (fun _ => entered?_of_keeps keeps) trivial

theorem unmoved_state : Unmoved state := .request (fun _ => rfl) trivial

theorem unmoved_send (message : Outbound) : Unmoved (Flow.send message) := .request (fun _ => rfl) trivial

theorem unmoved_undoPrehide : Unmoved undoPrehide :=
  .andThen unmoved_state fun _ => .ite (.andThen (.ask (fun _ => rfl) _) fun _ => .pure _) (.pure _)

theorem unmoved_attempt (found : Option Handler) (routine : Routine) : Unmoved (attempt timings found routine) := by
  cases found with
  | none => exact .pure _
  | some handler => exact confined_attempt timings (fun _ => silent_fits) fun _ _ => rfl

theorem unmoved_holds (found : Option Handler) {property : Handler → Flow Bool}
    (each : ∀ handler, Unmoved (property handler)) : Unmoved (holds found property) := by
  cases found with
  | none => exact .pure _
  | some handler => exact each handler

theorem unmoved_candidateLane (url : String) (handler : Handler) : Unmoved (candidateLane timings url handler) :=
  confined_candidateLane timings url (fun _ idly => silent_fits idly.fits) (fun _ _ => rfl)
    (fun _ => entered?_of_keeps fun state => state.phase_confirm handler) fun _ _ => rfl

theorem unmoved_preparation (config : EngineConfig) (rules : RuleSet) : Unmoved (preparation timings config rules) := by
  have waits := unmoved_modest (waitUntilReady_modest timings)
  have hides : Unmoved prehide := .andThen unmoved_state fun _ => .addRule fun _ => rfl
  refine .andThen (unmoved_update fun _ => rfl) fun _ => .andThen (unmoved_update fun state => ?_) fun _ =>
    .ite (.andThen hides fun _ => waits) waits
  exact (EngineState.sameButRoster_addRules rules state).phase

theorem recites_enter {phase : Phase} (later : phase ≠ .idle) :
    (enter phase).Recites Exchange.entered? fun _ whole => whole = [phase] := by
  refine .request fun _ => ?_
  exact List.filterMap_cons_some (entered?_of_comesTo (fun _ => rfl) later)

theorem recites_execute (decision : Decision) : (execute timings decision).Recites Exchange.entered? fun _ whole =>
    whole = [.executing, .reporting, .done] := by
  have recalled : ∀ slot, Unmoved (memoryOf slot) := fun slot => unmoved_modest (.recollect slot)
  refine .andThen (recites_enter (by decide)) fun _ _ told => ?_
  subst told
  refine .afterSilence unmoved_state fun known => .afterSilence (unmoved_attempt _ _) fun result => ?_
  refine .afterSilence unmoved_undoPrehide fun _ => .andThen (recites_enter (by decide)) fun _ _ told => ?_
  subst told
  refine .afterSilence (unmoved_modest .url) fun url => ?_
  refine .afterSilence (unmoved_holds _ fun handler => .andThen (recalled _) fun _ => .pure _) fun tests => ?_
  refine .afterSilence (unmoved_send _) fun _ => ?_
  have final : (do enter .done; return result : Flow Bool).Recites Exchange.entered? fun _ whole =>
      [.executing] ++ ([.reporting] ++ whole) = [.executing, .reporting, .done] := by
    refine .andThen (recites_enter (by decide)) fun _ _ told => .done ?_
    subst told
    rfl
  split
  · refine .afterSilence (unmoved_holds _ fun handler => ?_) fun completes => ?_
    · exact .andThen (.andThen (recalled _) fun _ => .pure _) fun _ => .pure _
    · split
      · exact .afterSilence (unmoved_send _) fun _ => final
      · exact final
  · exact final

theorem recites_decide (action : AutoAction) : (decide timings action).Recites Exchange.entered? fun _ whole =>
    whole = [.deciding, .done] ∨ whole = [.deciding, .executing, .reporting, .done] := by
  have executes : ∀ decision, (execute timings decision).Recites Exchange.entered? fun _ whole =>
      [.deciding] ++ whole = [.deciding, .done] ∨
        [.deciding] ++ whole = [.deciding, .executing, .reporting, .done] := by
    intro decision
    refine (recites_execute decision).imp fun _ whole told => ?_
    subst told
    exact .inr rfl
  refine .andThen (recites_enter (by decide)) fun _ _ told => ?_
  subst told
  cases action with
  | optOut => exact executes .optOut
  | optIn => exact executes .optIn
  | doNothing =>
      refine .andThen (recites_enter (by decide)) fun _ _ told => .done ?_
      subst told
      exact .inl rfl

theorem recites_giveUp {phase : Phase} (later : phase ≠ .idle) :
    (giveUp phase).Recites Exchange.entered? fun _ whole => whole = [phase] := by
  refine .andThen (recites_enter later) fun _ _ told => .afterSilence unmoved_undoPrehide fun _ => .done ?_
  subst told
  rfl

theorem recites_react (action : AutoAction) (candidates : List Handler) :
    (react timings action candidates).Recites Exchange.entered? fun _ whole =>
      .idle :: .detecting :: whole ∈ Phase.paths true := by
  unfold react
  split
  · refine (recites_giveUp (by decide)).imp fun _ whole told => ?_
    subst told
    decide
  · refine .afterSilence (unmoved_modest .url) fun url => ?_
    refine .afterSilence (.each (fun _ => unmoved_send _) _) fun _ => ?_
    refine .andThen (recites_enter (by decide)) fun _ _ told => ?_
    subst told
    have lanes : LanesConfined (Request.Hums Exchange.entered? fun _ => False) true
        (candidates.map (candidateLane timings url)) := by
      refine Flow.lanesConfined_iff.mpr fun lane member => ?_
      obtain ⟨handler, -, rfl⟩ := List.mem_map.mp member
      exact ((unmoved_candidateLane url handler).weaken fun _ silent => silent.hums _).1
    -- Only the winner of the race writes a phase.
    have raced : (Flow.race (candidates.map (candidateLane timings url)) false (decide timings action)
        .done).Recites Exchange.entered? fun outcome whole => outcome.elim (whole = []) fun _ =>
          whole = [.deciding, .done] ∨ whole = [.deciding, .executing, .reporting, .done] :=
      .race lanes (recites_decide action) (fun _ => List.eq_nil_iff_forall_not_mem.mpr)
        fun _ _ _ told swells => swells.eq_of_none ▸ told
    refine raced.bind fun outcome one told => ?_
    cases outcome with
    | none =>
        subst told
        refine (recites_giveUp (by decide)).imp fun _ whole told => ?_
        subst told
        decide
    | some acted =>
        refine .done ?_
        rcases told with rfl | rfl <;> decide

theorem recites_start : (start timings).Recites Exchange.entered? fun _ whole =>
    .idle :: whole ∈ Phase.paths true := by
  rw [start_eq]
  refine .afterSilence unmoved_state fun known => .andThen (recites_enter (by decide)) fun _ _ told => ?_
  subst told
  have finds : Unmoved (findCandidates timings known.config.detectRetries) :=
    confined_findCandidates timings (fun _ => silent_fits) (fun _ _ _ => rfl) (fun _ => rfl) (fun _ _ => rfl) _
  exact .afterSilence finds fun candidates => recites_react _ candidates

/-- What a start writes, with what comes before it. -/
theorem recites_setUp (config : EngineConfig) (rules : RuleSet) :
    (setUp timings config rules).Recites Exchange.entered? fun _ whole =>
      .idle :: whole ∈ Phase.paths config.enabled := by
  cases enabled : config.enabled with
  | true =>
      rw [setUp_enabled rules enabled]
      exact .afterSilence (unmoved_preparation config rules) fun _ => recites_start
  | false =>
      unfold setUp
      rw [enabled]
      refine .afterSilence (unmoved_update fun _ => rfl) fun _ => ?_
      refine .andThen (recites_enter (by decide)) fun _ _ told => .done ?_
      subst told
      decide

/-- The phases that a command comes to when it is carried out. -/
def scripts : Inbound → List (List Phase)
  | .initResponse config _ => (Phase.paths config.enabled).map List.tail
  | .optOut | .optIn => [[.executing, .reporting, .done]]
  | .selfTest | .evalResponse _ _ => [[]]

theorem recites_receive (command : Inbound) :
    (receive timings command).Recites Exchange.entered? fun _ whole => whole ∈ scripts command := by
  have executes : ∀ decision, ((execute timings decision).bind fun _ => .done ()).Recites Exchange.entered?
      fun _ whole => whole ∈ [[.executing, .reporting, .done]] := by
    intro decision
    refine (recites_execute decision).bind fun _ _ told => .done ?_
    subst told
    decide
  cases command with
  | initResponse config rules =>
      refine (recites_setUp config rules).andThen fun _ whole told => .done ?_
      rw [List.append_nil]
      exact List.mem_map.mpr ⟨_, told, rfl⟩
  | optOut => exact executes .optOut
  | optIn => exact executes .optIn
  | selfTest =>
      have tests : Unmoved (selfTest timings) := .andThen unmoved_state fun known =>
        .andThen (unmoved_attempt _ _) fun result => .andThen (unmoved_modest .url) fun url =>
          .andThen (unmoved_send _) fun _ => .pure _
      exact .afterSilence tests fun _ => .done (List.mem_singleton.mpr rfl)
  | evalResponse id result =>
      have hands : Unmoved (Flow.request (.resolve id result)) := .request (fun _ => rfl) trivial
      exact .afterSilence hands fun _ => .done (List.mem_singleton.mpr rfl)

end Engine

/-! ## Several commands -/

namespace Life

variable {timings : Timings} {life next : Life} {mandate : Mandate}

/-- What a command has written so far is the beginning of one of its scripts, and the whole of it when the
command has been carried out. -/
theorem Told.scripted (told : Told timings life) (member : mandate ∈ life.mandates) :
    ∃ whole ∈ scripts mandate.command, entered mandate.story <+: whole ∧
      (mandate.flow = .done () → entered mandate.story = whole) := by
  have steps := told.steps mandate member
  by_cases done : mandate.flow = .done ()
  · rw [done] at steps
    exact ⟨_, (recites_receive mandate.command).ended steps, List.prefix_rfl, fun _ => rfl⟩
  · obtain ⟨_, whole, scripted, part⟩ := (recites_receive mandate.command).begun steps
    exact ⟨whole, scripted, part, fun ended => absurd ended done⟩

theorem idle_not_mem_scripts {command : Inbound} {whole : List Phase} (scripted : whole ∈ scripts command) :
    .idle ∉ whole := by
  have none : ∀ whole ∈ scripts command, Phase.idle ∉ whole := by
    cases command with
    | initResponse config rules =>
        change ∀ whole ∈ (Phase.paths config.enabled).map List.tail, Phase.idle ∉ whole
        cases config.enabled <;> decide
    | optOut | optIn | selfTest | evalResponse => simp [scripts]
  exact none whole scripted

theorem Told.proper (told : Told timings life) (member : mandate ∈ life.mandates) :
    .idle ∉ entered mandate.story := by
  obtain ⟨whole, scripted, part, -⟩ := told.scripted member
  exact fun idle => idle_not_mem_scripts scripted (part.subset idle)

/-- The phase is the one that some command wrote last, or nothing was written at all. -/
def Written (life : Life) : Prop :=
  life.ledger.engine.phase = .idle ∧ (∀ mandate ∈ life.mandates, entered mandate.story = []) ∨
    ∃ mandate ∈ life.mandates, (entered mandate.story).getLast? = some life.ledger.engine.phase

theorem written_born (page : Snapshot) : Written (born page) := .inl ⟨rfl, by simp [born]⟩

/-- One command has gone on, and all others stand as before. -/
theorem Written.goOn {before after : Ledger} {ahead behind : List Mandate} {flow : Flow Unit}
    {story : List Exchange} (follows : before.Follows story after)
    (proper : .idle ∉ entered (mandate.story ++ story))
    (written : Written ⟨before, ahead ++ mandate :: behind⟩) :
    Written ⟨after, ahead ++ ⟨mandate.command, mandate.story ++ story, flow⟩ :: behind⟩ := by
  let moved : Mandate := ⟨mandate.command, mandate.story ++ story, flow⟩
  have whole : entered moved.story = entered mandate.story ++ entered story := Flow.cues_append _ _
  have here : moved ∈ ahead ++ moved :: behind := by simp
  have kept : ∀ other ∈ ahead ++ mandate :: behind, entered story = [] →
      ∃ same ∈ ahead ++ moved :: behind, entered same.story = entered other.story := by
    intro other member silent
    rcases mem_insert member with rfl | apart
    · exact ⟨moved, here, by rw [whole, silent, List.append_nil]⟩
    · exact ⟨other, subset_insert _ ahead behind apart, rfl⟩
  have phase := follows.phase fun idle => proper (by
    rw [entered, Flow.cues_append]
    exact List.mem_append_right _ idle)
  cases last : (entered story).getLast? with
  | some latest =>
      refine .inr ⟨moved, here, ?_⟩
      rw [last] at phase
      rw [whole, List.getLast?_append, last]
      exact congrArg some phase.symm
  | none =>
      have silent := List.getLast?_eq_none_iff.mp last
      rw [last] at phase
      rcases written with ⟨idle, none⟩ | ⟨writer, member, wrote⟩
      · refine .inl ⟨phase.trans idle, fun other member => ?_⟩
        rcases mem_insert member with rfl | apart
        · rw [whole, silent, none mandate (by simp), List.append_nil]
        · exact none other (subset_insert mandate ahead behind apart)
      · obtain ⟨same, within, is⟩ := kept writer member silent
        refine .inr ⟨same, within, ?_⟩
        rw [is, wrote]
        exact congrArg some phase.symm

theorem Written.step (written : Written life) (told : Told timings next) (step : Step timings life next) :
    Written next := by
  cases step with
  | register plan => exact written
  | disable names => exact written
  | @begin _ _ command begins =>
      cases begins with | @intro before after mandates flow story burst steps follows =>
      -- A command that begins has written nothing so far.
      have waiting : Written ⟨before, mandates ++ ⟨command, [], flow⟩ :: []⟩ := by
        rcases written with ⟨idle, none⟩ | ⟨writer, member, wrote⟩
        · refine .inl ⟨idle, fun other member => ?_⟩
          rcases List.mem_append.mp member with old | new
          · exact none other old
          · obtain rfl := List.mem_singleton.mp new
            rfl
        · exact .inr ⟨writer, List.mem_append_left _ member, wrote⟩
      have proper : .idle ∉ entered ([] ++ story) :=
        told.proper (List.mem_append_right mandates List.mem_cons_self)
      exact waiting.goOn follows proper
  | goOn turn steps follows =>
      exact written.goOn follows (told.proper (List.mem_append_right _ List.mem_cons_self))

theorem Written.reaches {first : Life} (written : Written first) (told : Told timings first)
    (reaches : Reaches timings first life) : Written life := by
  induction reaches with
  | refl => exact written
  | step before step ih => exact ih.step ((told.reaches before).step step) step

theorem isFinal_of_script {command : Inbound} {whole : List Phase} {phase : Phase}
    (scripted : whole ∈ scripts command) (last : whole.getLast? = some phase) : phase.IsFinal := by
  have each : ∀ whole ∈ scripts command, ∀ phase ∈ whole.getLast?, Phase.IsFinal phase := by
    unfold Phase.IsFinal
    cases command with
    | initResponse config rules =>
        change ∀ whole ∈ (Phase.paths config.enabled).map List.tail, _
        cases config.enabled <;> decide
    | optOut | optIn | selfTest | evalResponse => simp [scripts]
  exact each whole scripted phase last

/-- A command that writes nothing begins nothing. -/
theorem silent_of_script {command : Inbound} (scripted : [] ∈ scripts command) :
    command = .selfTest ∨ ∃ id result, command = .evalResponse id result := by
  cases command with
  | initResponse config rules =>
      have none : [] ∉ (Phase.paths config.enabled).map List.tail := by cases config.enabled <;> decide
      exact absurd scripted none
  | optOut | optIn => exact absurd scripted (by simp [scripts])
  | selfTest => exact .inl rfl
  | evalResponse id result => exact .inr ⟨id, result, rfl⟩

/-- The phases of an engine that carries out one start and nothing else. -/
theorem paths_of_start {config : EngineConfig} {rules : RuleSet} {story : List Exchange} {flow : Flow Unit}
    (told : Told timings life) (written : Written life)
    (single : life.mandates = [⟨.initResponse config rules, story, flow⟩]) :
    ∃ path ∈ Phase.paths config.enabled, EngineState.initial.phases story <+: path ∧
      (EngineState.initial.phases story).getLast? = some life.ledger.engine.phase ∧
      (flow = .done () → EngineState.initial.phases story = path) := by
  have member : ⟨.initResponse config rules, story, flow⟩ ∈ life.mandates := by simp [single]
  obtain ⟨_, scripted, part, whole⟩ := told.scripted member
  obtain ⟨path, isPath, rfl⟩ := List.mem_map.mp scripted
  obtain ⟨rest, rfl, distinct⟩ : ∃ rest, path = .idle :: rest ∧ path.Nodup := by
    have each : ∀ path ∈ Phase.paths config.enabled, path.head? = some .idle ∧ path.Nodup := by
      cases config.enabled <;> decide
    obtain ⟨head, distinct⟩ := each path isPath
    exact ⟨path.tail, (List.cons_head?_tail head).symm, distinct⟩
  have prefixed : Phase.idle :: entered story <+: .idle :: rest := (List.prefix_cons_inj _).mpr part
  -- No phase comes twice on a path, so that the engine passes through what is written.
  have passed : EngineState.initial.phases story = .idle :: entered story :=
    phases_eq (told.proper member) (distinct.sublist prefixed.sublist)
  rw [passed]
  refine ⟨.idle :: rest, isPath, prefixed, ?_, fun done => congrArg _ (whole done)⟩
  rw [List.getLast?_cons]
  rcases written with ⟨idle, none⟩ | ⟨writer, within, wrote⟩
  · rw [none _ member, idle]
    rfl
  · rw [single] at within
    obtain rfl := List.mem_singleton.mp within
    rw [wrote]
    rfl

/-- However many commands are carried out side by side, whenever all are done the engine has come to an end,
and it is where it began only if nothing was begun.  A single start takes one of the paths from the first phase
to a last one. -/
theorem comes_to_rest (timings : Timings) (page : Snapshot) {life : Life}
    (reaches : Reaches timings (born page) life) :
    (life.Idle → life.ledger.engine.phase.IsFinal ∧
      (life.ledger.engine.phase = .idle → ∀ mandate ∈ life.mandates,
        mandate.command = .selfTest ∨ ∃ id result, mandate.command = .evalResponse id result)) ∧
    ∀ config rules story flow, life.mandates = [⟨.initResponse config rules, story, flow⟩] →
      ∃ path ∈ Phase.paths config.enabled, EngineState.initial.phases story <+: path ∧
        (EngineState.initial.phases story).getLast? = some life.ledger.engine.phase ∧
        (flow = .done () → EngineState.initial.phases story = path) := by
  have told := (told_born timings page).reaches reaches
  have written := (written_born page).reaches (told_born timings page) reaches
  refine ⟨fun idle => ?_, fun config rules story flow single => paths_of_start told written single⟩
  have ended : ∀ mandate ∈ life.mandates, entered mandate.story ∈ scripts mandate.command := by
    intro mandate member
    obtain ⟨whole, scripted, -, full⟩ := told.scripted member
    exact (full (idle mandate member)).symm ▸ scripted
  rcases written with ⟨rested, none⟩ | ⟨writer, member, wrote⟩
  · refine ⟨rested ▸ by decide, fun _ mandate member => silent_of_script ?_⟩
    exact none mandate member ▸ ended mandate member
  · refine ⟨isFinal_of_script (ended writer member) wrote, fun rested => ?_⟩
    rw [rested] at wrote
    exact absurd (List.mem_of_getLast? wrote) (told.proper member)

/-- A start on a page without dialogs, which ends while nothing else goes on. -/
theorem comes_to_rest_noneFound : ∃ life config rules story flow,
    Reaches .usual (born (.ofText "")) life ∧ life.Idle ∧ life.ledger.engine.phase.IsFinal ∧
    life.mandates = [⟨.initResponse config rules, story, flow⟩] ∧ flow = .done () ∧
    EngineState.initial.phases story ∈ Phase.paths true ∧ life.ledger.engine.phase = .noneFound := by
  let config : EngineConfig := ⟨true, .optOut, [], true, 0⟩
  obtain ⟨begun, story, begins, reaches⟩ :=
    run_command .usual (.initResponse config .empty) (World.start (.ofText "")) []
  have done : ((receive .usual (.initResponse config .empty)).run (World.start (.ofText ""))).1.value? =
      some () := by decide +kernel
  have phase : ((receive .usual (.initResponse config .empty)).run (World.start (.ofText ""))).2.engine.phase =
      .noneFound := by decide +kernel
  generalize (receive .usual (.initResponse config .empty)).run (World.start (.ofText "")) = result
    at reaches done phase
  have ended := Flow.value?_eq_some.mp done
  have reached := Reaches.trans (.step .refl (.begin begins)) reaches
  have idle : Idle ⟨result.2.ledger, [⟨.initResponse config .empty, story, result.1⟩]⟩ := by
    simpa [Idle] using ended
  obtain ⟨rests, single⟩ := comes_to_rest .usual (.ofText "") reached
  obtain ⟨path, isPath, -, -, whole⟩ := single config .empty story result.1 rfl
  exact ⟨_, config, .empty, story, result.1, reached, idle, (rests idle).1, rfl, ended, whole ended ▸ isPath, phase⟩

end Life

end ConsentBanner

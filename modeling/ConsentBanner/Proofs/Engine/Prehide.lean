import ConsentBanner.Proofs.Engine.Gating
import ConsentBanner.Proofs.Flow.Heats
import ConsentBanner.Proofs.Flow.Stage

/-!
# Showing again what was hidden

The engine may hide dialogs until a decision is made.  Whatever it comes to, it shows them again before it is done,
unless a dialog was confirmed that is to be left alone (`Engine.start_ends`).
-/

set_option autoImplicit false

namespace ConsentBanner

open Flow (Confined Steps Allowed)

/-- Requests after which whoever was confirmed is still the one, and nobody else. -/
def Request.LeavesFound : {β : Type} → Request β → Prop
  | _, .update change => ∀ state : EngineState, (change state).found = state.found
  | _, _ => True

/-- Requests that do not show again what is hidden for the time being. -/
def Request.ShowsNone : {β : Type} → Request β → Prop
  | _, .page call => call.RemovesNot Hiding.passingStyle
  | _, _ => True

def Request.IsAside {β : Type} (request : Request β) : Prop := request.ShowsNone ∧ request.LeavesFound

theorem Request.IsSteady.leavesFound {β : Type} {request : Request β} {engaged : Routine → Prop}
    (steady : request.IsSteady engaged) : request.LeavesFound := by
  cases request with
  | update change =>
      intro state
      obtain ⟨phase, is⟩ := steady state
      rw [is]
  | _ => trivial

theorem Request.Fits.aside {β : Type} {request : Request β} {routine : Routine} (fits : request.Fits routine) :
    request.IsAside := by
  have steady : request.IsSteady fun _ => True := fits.steady trivial
  refine ⟨?_, steady.leavesFound⟩
  cases request with
  | page call => exact PageCall.Spares.removesNot fits
  | _ => trivial

/-- The engine has looked up its configuration, and shown again what was hidden if anything was. -/
def Reverts (story : List Exchange) : Prop :=
  ∃ known : EngineState, ⟨.state, known⟩ ∈ story ∧
    (known.config.enablePrehide = true → ∃ reply, ⟨.page (.removeStyle Hiding.passingStyle), reply⟩ ∈ story)

def HasConfirmed (story : List Exchange) : Prop :=
  ∃ handler : Handler, ⟨.update fun state => state.confirm handler, ()⟩ ∈ story

theorem Reverts.subset {part story : List Exchange} (reverts : Reverts part) (within : part ⊆ story) :
    Reverts story := by
  obtain ⟨known, asked, shows⟩ := reverts
  refine ⟨known, within asked, fun enabled => ?_⟩
  obtain ⟨reply, shown⟩ := shows enabled
  exact ⟨reply, within shown⟩

theorem HasConfirmed.subset {part story : List Exchange} (confirmed : HasConfirmed part) (within : part ⊆ story) :
    HasConfirmed story := by
  obtain ⟨handler, told⟩ := confirmed
  exact ⟨handler, within told⟩

theorem Flow.Allowed.append {may : Allowance} {first second : List Exchange} (one : Allowed may first)
    (two : Allowed may second) : Allowed may (first ++ second) :=
  List.forall_mem_append.mpr ⟨one, two⟩

namespace Engine

variable {timings : Timings} {story : List Exchange} {value : Bool}

theorem undoPrehide_eq : undoPrehide = state.bind fun known =>
    if known.config.enablePrehide then Primitive.undoPrehide.bind fun _ => .done () else .done () := rfl

theorem reverts_undoPrehide (steps : Steps undoPrehide story (.done ())) : Reverts story := by
  rw [undoPrehide_eq] at steps
  obtain ⟨known, one, two, reads, undoes, rfl⟩ := Steps.bind_iff.mp steps
  obtain rfl := Steps.request_iff.mp reads
  refine ⟨known, List.mem_cons_self, fun enabled => ?_⟩
  rw [if_pos enabled] at undoes
  obtain ⟨_, removed, rest, removes, -, rfl⟩ := Steps.bind_iff.mp undoes
  obtain ⟨reply, called, -⟩ := Steps.map_iff.mp removes
  obtain rfl := Steps.request_iff.mp called
  exact ⟨reply, by simp⟩

theorem reverts_giveUp {phase : Phase} (steps : Steps (giveUp phase) story (.done value)) : Reverts story := by
  obtain ⟨_, entering, rest, -, others, rfl⟩ := Steps.bind_iff.mp steps
  obtain ⟨_, undoing, last, undoes, -, rfl⟩ := Steps.bind_iff.mp others
  refine (reverts_undoPrehide undoes).subset fun exchange member => ?_
  simp [member]

/-- After a decision was carried out, and before it is reported, what was hidden is shown again. -/
theorem execute_eq (timings : Timings) (decision : Decision) : ∃ report : EngineState → Bool → Flow Bool,
    execute timings decision = (enter .executing).bind fun _ => state.bind fun known =>
      (attempt timings known.found decision.routine).bind fun result => undoPrehide.bind fun _ =>
        report known result := ⟨_, rfl⟩

theorem reverts_execute {decision : Decision} (steps : Steps (execute timings decision) story (.done value)) :
    Reverts story := by
  obtain ⟨report, is⟩ := execute_eq timings decision
  rw [is] at steps
  obtain ⟨_, entering, afterEntering, -, reads, rfl⟩ := Steps.bind_iff.mp steps
  obtain ⟨known, reading, afterReading, -, acts, rfl⟩ := Steps.bind_iff.mp reads
  obtain ⟨result, acting, afterActing, -, undoes, rfl⟩ := Steps.bind_iff.mp acts
  obtain ⟨_, undoing, last, undone, -, rfl⟩ := Steps.bind_iff.mp undoes
  refine (reverts_undoPrehide undone).subset fun exchange member => ?_
  simp [member]

/-! ## Candidates -/

theorem candidateLane_eq (timings : Timings) (url : String) (handler : Handler) :
    candidateLane timings url handler = (waitForPopup timings handler).bind fun yes =>
      if yes then (confirm handler url).bind fun _ => .done true else .done false := rfl

theorem confirmed_lane {url : String} {handler : Handler}
    (steps : Steps (candidateLane timings url handler) story (.done true)) : HasConfirmed story := by
  rw [candidateLane_eq] at steps
  obtain ⟨yes, waiting, rest, -, ends, rfl⟩ := Steps.bind_iff.mp steps
  cases yes with
  | false => cases (Steps.done_iff.mp ends).2
  | true =>
      obtain ⟨_, confirming, last, confirms, -, rfl⟩ := Steps.bind_iff.mp ends
      obtain ⟨_, updating, sending, updates, -, rfl⟩ := Steps.bind_iff.mp confirms
      obtain rfl := Steps.request_iff.mp updates
      exact ⟨handler, by simp⟩

/-- A lane that comes to false has confirmed nobody. -/
theorem unconfirmed_lane {url : String} {handler : Handler}
    (steps : Steps (candidateLane timings url handler) story (.done false)) :
    Allowed Request.LeavesFound story := by
  rw [candidateLane_eq] at steps
  obtain ⟨yes, waiting, rest, waits, ends, rfl⟩ := Steps.bind_iff.mp steps
  have asks : (handler.attempt timings .popup).Confined Request.LeavesFound true :=
    confined_attempt timings (fun _ fits => fits.aside.2) fun _ => trivial
  have looks : (waitForPopup timings handler).Confined Request.LeavesFound true := .poll _ asks _
  cases yes with
  | false =>
      obtain ⟨rfl, -⟩ := Steps.done_iff.mp ends
      exact (waits.confined looks).2.append (List.forall_mem_nil _)
  | true =>
      obtain ⟨_, confirming, last, -, done, rfl⟩ := Steps.bind_iff.mp ends
      cases (Steps.done_iff.mp done).2

theorem showsNone_lane (timings : Timings) (url : String) (handler : Handler) :
    (candidateLane timings url handler).Confined Request.ShowsNone true :=
  confined_candidateLane timings url (fun _ idly => idly.fits.aside.1) (fun _ => trivial) trivial fun _ => trivial

/-! ## What the engine comes to -/

theorem showsNone_decide (timings : Timings) : (decide timings .doNothing).Confined Request.ShowsNone true :=
  .andThen (.request trivial trivial) fun _ => .andThen (.request trivial trivial) fun _ => .pure _

theorem reverts_decide {action : AutoAction} (acts : action ≠ .doNothing)
    (steps : Steps (decide timings action) story (.done value)) : Reverts story := by
  obtain ⟨_, entering, deciding, -, decides, rfl⟩ := Steps.bind_iff.mp steps
  have within : deciding ⊆ entering ++ deciding := List.subset_append_right _ _
  cases action with
  | optOut => exact (reverts_execute decides).subset within
  | optIn => exact (reverts_execute decides).subset within
  | doNothing => exact absurd rfl acts

/-- Nobody was confirmed, and what was hidden was shown again; or a dialog was confirmed, and what was hidden was
shown again unless nothing is to be done. -/
def Concludes (action : AutoAction) (story : List Exchange) : Prop :=
  Reverts story ∧ Allowed Request.LeavesFound story ∨
    HasConfirmed story ∧ (action = .doNothing → Allowed Request.ShowsNone story) ∧
      (action ≠ .doNothing → Reverts story)

theorem Concludes.after {action : AutoAction} {first : List Exchange} (asides : Allowed Request.IsAside first)
    (concludes : Concludes action story) : Concludes action (first ++ story) := by
  have within : story ⊆ first ++ story := List.subset_append_right _ _
  rcases concludes with ⟨reverts, leaves⟩ | ⟨confirmed, stays, reverts⟩
  · refine .inl ⟨reverts.subset within, .append (fun exchange member => ?_) leaves⟩
    exact (asides exchange member).2
  · refine .inr ⟨confirmed.subset within, fun nothing => ?_, fun acts => (reverts acts).subset within⟩
    exact .append (fun exchange member => (asides exchange member).1) (stays nothing)

theorem leavesFound_giveUp {phase : Phase} (steps : Steps (giveUp phase) story (.done value)) :
    Allowed Request.LeavesFound story := by
  have steady : Allowed (Request.IsSteady fun _ => True) story := (steps.confined (steady_giveUp phase)).2
  exact fun exchange member => (steady exchange member).leavesFound

theorem leavesFound_race {url : String} {candidates : List Handler} {winner : Flow Bool}
    (steps : Steps (.race (candidates.map (candidateLane timings url)) false winner .done) story (.done none)) :
    Allowed Request.LeavesFound story := by
  intro exchange member
  obtain ⟨lane, within, own, ends, told⟩ := steps.lost.2.told exchange member
  obtain ⟨handler, -, rfl⟩ := List.mem_map.mp within
  exact unconfirmed_lane ends exchange told

/-- A race that somebody wins confirms somebody, and does what is to be done. -/
theorem concludes_race {action : AutoAction} {url : String} {candidates : List Handler} {acted : Bool}
    (steps : Steps (.race (candidates.map (candidateLane timings url)) false (decide timings action) .done) story
      (.done (some acted))) : Concludes action story := by
  obtain ⟨⟨lead, leads, within⟩, won⟩ := steps.decided
  obtain ⟨lane, member, own, wins, part⟩ := won rfl
  obtain ⟨handler, -, rfl⟩ := List.mem_map.mp member
  have reverts (acts : action ≠ .doNothing) : Reverts story := (reverts_decide acts leads).subset within.subset
  refine .inr ⟨(confirmed_lane wins).subset part.subset, ?_, reverts⟩
  rintro rfl
  -- Lanes that are late go on while the winner decides, so theirs is part of what is told.
  have lanes : Flow.LanesConfined Request.ShowsNone true (candidates.map (candidateLane timings url)) := by
    refine Flow.lanesConfined_iff.mpr fun lane member => ?_
    obtain ⟨handler, -, rfl⟩ := List.mem_map.mp member
    exact showsNone_lane timings url handler
  exact (steps.confined ⟨lanes, showsNone_decide timings, fun _ => .done _⟩).2

theorem aside_modest {α : Type} {flow : Flow α} (modest : flow.Modest) : flow.Confined Request.IsAside true :=
  ((modest.fits .detect).weaken fun _ fits => fits.aside).1

theorem aside_enter (phase : Phase) : (enter phase).Confined Request.IsAside true :=
  .request ⟨trivial, fun _ => rfl⟩ trivial

theorem aside_send (message : Outbound) : (Flow.send message).Confined Request.IsAside true :=
  .request ⟨trivial, trivial⟩ trivial

theorem concludes_react {action : AutoAction} {candidates : List Handler}
    (steps : Steps (react timings action candidates) story (.done value)) : Concludes action story := by
  rw [react] at steps
  split at steps
  · exact .inl ⟨reverts_giveUp steps, leavesFound_giveUp steps⟩
  · obtain ⟨url, locating, first, locates, tells, rfl⟩ := Steps.bind_iff.mp steps
    obtain ⟨_, telling, second, told, enters, rfl⟩ := Steps.bind_iff.mp tells
    obtain ⟨_, entering, third, entered, others, rfl⟩ := Steps.bind_iff.mp enters
    have each : (Flow.each (fun handler : Handler => Flow.send (.cmpDetected url handler.name))
        candidates).Confined Request.IsAside true := .each (fun _ => aside_send _) _
    -- Everything before the race is aside: it confirms nobody and shows nothing.
    refine .after (locates.confined (aside_modest Flow.Modest.url)).2 (.after (told.confined each).2
      (.after (entered.confined (aside_enter .confirming)).2 ?_))
    obtain ⟨outcome, racing, rest, races, ends, rfl⟩ := Steps.bind_iff.mp (show Steps ((Flow.race
      (candidates.map (candidateLane timings url)) false (decide timings action) .done).bind _) third
      (.done value) from others)
    cases outcome with
    | none =>
        refine .inl ⟨(reverts_giveUp ends).subset (List.subset_append_right _ _), ?_⟩
        exact (leavesFound_race races).append (leavesFound_giveUp ends)
    | some acted =>
        obtain ⟨rfl, -⟩ := Steps.done_iff.mp ends
        rw [List.append_nil]
        exact concludes_race races

theorem concludes_start (steps : Steps (start timings) story (.done value)) :
    ∃ known : EngineState, ⟨.state, known⟩ ∈ story ∧ Concludes known.config.autoAction story := by
  rw [start_eq] at steps
  obtain ⟨known, reading, first, reads, enters, rfl⟩ := Steps.bind_iff.mp steps
  obtain ⟨_, entering, second, entered, searches, rfl⟩ := Steps.bind_iff.mp enters
  obtain ⟨candidates, searching, third, searched, reacts, rfl⟩ := Steps.bind_iff.mp searches
  obtain rfl := Steps.request_iff.mp reads
  have reading : Allowed Request.IsAside [⟨.state, known⟩] := by
    intro exchange member
    obtain rfl := List.mem_singleton.mp member
    exact ⟨trivial, trivial⟩
  have search : (findCandidates timings known.config.detectRetries).Confined Request.IsAside true :=
    confined_findCandidates timings (fun _ fits => fits.aside) (fun _ _ => ⟨trivial, trivial⟩) ⟨trivial, trivial⟩
      (fun _ => ⟨trivial, trivial⟩) _
  refine ⟨known, List.mem_cons_self, .after reading (.after (entered.confined (aside_enter .detecting)).2
    (.after (searched.confined search).2 (concludes_react reacts)))⟩

end Engine

end ConsentBanner

import ConsentBanner.Proofs.Engine.Passage
import ConsentBanner.Proofs.Flow.Warranted

/-!
# The button that refuses everything

The banner in the top frame may have a button that refuses everything at once.  Its handler remembers the button when
it looks for the banner, and takes opting out for the last word if it knows of a button, or if it was ever to allow
everything.  What opting out did itself does not matter to it.

Whatever the engine does is warranted by what was told before (`warranted_receive`), so that in a passage of a visit
what the handler remembers has been so (`honest`).  Main statement: `optOut_completes`, by which opting out completes a
page only where it has clicked on the button, or in the three ways in which the handler is mistaken (`Slips`).
-/

set_option autoImplicit false

namespace ConsentBanner

open Engine
open Flow (Confined LanesConfined Steps Warranted Lasting)

namespace TrustArcTop

/-- The handler of the banner, in its slot. -/
def handlerIn (slot : Nat) : Handler := ⟨slot, .vendor .trustArcTop⟩

/-- There were reasons to change what the handler in a slot remembers: its button is one that the page was asked for,
and where everything was allowed it has begun to do so. -/
structure Grounds (told : List Exchange) (slot : Nat) (before after : Memory) : Prop where
  shortcut : ∀ button, after.shortcut = some button → before.shortcut = some button ∨
    ∃ nodes, button ∈ nodes ∧ ⟨.page (.queryAll .document refuseButton), .ok nodes⟩ ∈ told
  optIn : after.optInDone = true → before.optInDone = true ∨ (handlerIn slot).begins .optIn ∈ told

/-- Opting out has begun, has looked up what the handler remembers, and has clicked on its button if there is one. -/
structure Looked (told : List Exchange) (handler : Handler) (memory : Memory) : Prop where
  recalled : [handler.begins .optOut, ⟨.memory handler.slot, memory⟩].Sublist told
  clicked : ∀ button, memory.shortcut = some button →
    ∃ reply, [handler.begins .optOut, ⟨.page (.click button), reply⟩].Sublist told

structure Carries (told : List Exchange) (handler : Handler) (decision : Decision) : Prop where
  chosen : ∃ known : EngineState, known.found = some handler ∧ ⟨.state, known⟩ ∈ told
  begun : handler.begins decision.routine ∈ told
  looked : decision = .optOut → handler.plan = .vendor .trustArcTop → ∃ memory, Looked told handler memory

/-- Afterwards the handler remembers what says that this was all. -/
def Completes (told : List Exchange) (handler : Handler) (decision : Decision) : Prop :=
  ∃ before memory, Carries before handler decision ∧ handler.traits.isIntermediate memory = false ∧
    (before ++ [(⟨.memory handler.slot, memory⟩ : Exchange)]).Sublist told

/-- The handler of the banner learns nothing without a reason, and the page is complete when the handler that was found
has carried a decision out. -/
def warrant (told : List Exchange) : {β : Type} → Request β → Prop
  | _, .remember slot change => ∀ memory, Grounds told slot memory (change memory)
  | _, .send (.autoconsentDone _ _) => ∃ handler decision, Completes told handler decision
  | _, _ => True

section Lasts

variable {told more : List Exchange} {handler : Handler} {decision : Decision} {memory : Memory}
  (grown : told.Sublist more)

include grown

theorem Grounds.later {slot : Nat} {before after : Memory} (grounds : Grounds told slot before after) :
    Grounds more slot before after := by
  refine ⟨fun button is => (grounds.shortcut button is).imp_right ?_, fun done => (grounds.optIn done).imp_right ?_⟩
  · rintro ⟨nodes, member, asked⟩
    exact ⟨nodes, member, grown.subset asked⟩
  · exact fun begun => grown.subset begun

theorem Looked.later (looked : Looked told handler memory) : Looked more handler memory := by
  refine ⟨looked.recalled.trans grown, fun button is => ?_⟩
  obtain ⟨reply, clicked⟩ := looked.clicked button is
  exact ⟨reply, clicked.trans grown⟩

theorem Carries.later (carries : Carries told handler decision) : Carries more handler decision := by
  obtain ⟨⟨known, found, asked⟩, begun, looked⟩ := carries
  refine ⟨⟨known, found, grown.subset asked⟩, grown.subset begun, fun refuses top => ?_⟩
  obtain ⟨memory, looked⟩ := looked refuses top
  exact ⟨memory, looked.later grown⟩

theorem Completes.later (completes : Completes told handler decision) : Completes more handler decision := by
  obtain ⟨before, memory, carries, final, recalled⟩ := completes
  exact ⟨before, memory, carries, final, recalled.trans grown⟩

end Lasts

theorem warrant_lasts : Warrant.Lasts warrant := by
  intro told later grown β request allowed
  cases request with
  | remember slot change => exact fun memory => (allowed memory).later grown
  | send message =>
      cases message with
      | autoconsentDone cmp url =>
          obtain ⟨handler, decision, completes⟩ := allowed
          exact ⟨handler, decision, completes.later grown⟩
      | _ => trivial
  | _ => trivial

/-- Requests that may always be made. -/
def IsFree : {β : Type} → Request β → Prop
  | _, .remember _ change => Memory.SparesBanner change
  | _, .send (.autoconsentDone _ _) => False
  | _, _ => True

theorem warrant_free {told : List Exchange} {β : Type} {request : Request β} (free : IsFree request) :
    warrant told request := by
  cases request with
  | remember slot change =>
      exact fun memory => ⟨fun button is => .inl ((free memory).1 ▸ is), fun done => .inl ((free memory).2 ▸ done)⟩
  | send message =>
      cases message with
      | autoconsentDone cmp url => exact free.elim
      | _ => trivial
  | _ => trivial

variable {α β : Type} {told : List Exchange} {flow : Flow α} {alone : Bool} (timings : Timings)

theorem warranted_free (free : flow.Confined IsFree alone) :
    Warranted warrant (fun _ later => told.Sublist later) told flow := by
  refine @Flow.Confined.warranted warrant IsFree told ?_ alone α flow free told (.refl told)
  intro later _ β request free
  exact warrant_free free

theorem afterFree {fine : β → List Exchange → Prop} {next : α → Flow β} (free : flow.Confined IsFree alone)
    (onward : ∀ value later, told.Sublist later → Warranted warrant fine later (next value)) :
    Warranted warrant fine told (flow >>= next) :=
  (warranted_free free).andThen fun value later grown _ => onward value later grown

theorem free_fitsApart {β : Type} {request : Request β} {routine : Routine} (fits : request.FitsApart routine) :
    IsFree request := by
  cases request with
  | send _ => cases fits
  | remember _ _ => exact fits
  | _ => trivial

theorem free_fitsIdly {β : Type} {request : Request β} {routine : Routine} (idly : request.FitsIdly routine) :
    IsFree request := by
  cases request with
  | send _ | remember _ _ => cases idly
  | _ => trivial

instance : Allowance.Roomy IsFree where
  page _ _ := trivial
  asks _ := trivial
  recalls _ := trivial

/-! ## What handlers do -/

section Routines

variable {slot : Nat}

theorem warranted_detect : Warranted warrant (fun _ later => told.Sublist later) told (detect slot) := by
  refine afterFree (Flow.Modest.isPresent _) fun present later grown => .ite ?_ (.pure grown)
  have asks : Warranted warrant (fun nodes last => ∀ button, button ∈ nodes → ∃ found, button ∈ found ∧
      ⟨.page (.queryAll .document refuseButton), .ok found⟩ ∈ last) later (Primitive.query refuseButton) := by
    refine .afterRequest trivial fun reply => .pure fun button member => ?_
    cases reply with
    | ok nodes => exact ⟨nodes, member, by simp⟩
    | error _ => cases member
  refine asks.bind fun nodes last more found => .afterRequest ?_ fun _ => .pure ?_
  · exact fun memory => ⟨fun button is => .inr (found button (List.mem_of_head? is)), .inl⟩
  · exact (grown.trans more).trans (List.sublist_append_left _ _)

theorem warranted_optIn (begun : (handlerIn slot).begins .optIn ∈ told) :
    Warranted warrant (fun _ later => told.Sublist later) told (optIn slot) := by
  refine .afterRequest ?_ fun _ => ?_
  · exact fun memory => ⟨fun _ => .inl, fun _ => .inr begun⟩
  · exact (warranted_free (Flow.Modest.click _ _)).imp fun _ _ more _ => (List.sublist_append_left _ _).trans more

theorem warranted_optOut (begun : (handlerIn slot).begins .optOut ∈ told) :
    Warranted warrant (fun _ later => ∃ memory, Looked later (handlerIn slot) memory) told (optOut slot) := by
  have first : [(handlerIn slot).begins .optOut].Sublist told := List.singleton_sublist.mpr begun
  refine .afterRequest trivial fun memory => ?_
  have grown : told.Sublist (told ++ [⟨.memory slot, memory⟩]) := List.sublist_append_left _ _
  have recalled : [(handlerIn slot).begins .optOut, ⟨.memory slot, memory⟩].Sublist
    (told ++ [⟨.memory slot, memory⟩]) := first.append (.refl _)
  generalize told ++ [⟨.memory slot, memory⟩] = later at grown recalled
  split
  next button is =>
    have clicks : Warranted warrant (fun _ last => ∃ reply,
        [(handlerIn slot).begins .optOut, ⟨.page (.click button), reply⟩].Sublist last) later
        (Primitive.clickNodes [button] false) :=
      .ask trivial fun reply => .done ⟨reply, (first.trans grown).append (.refl _)⟩
    refine clicks.bind fun _ last more clicked => .pure ⟨memory, recalled.trans more, fun other same => ?_⟩
    obtain rfl := Option.some.inj (is.symm.trans same)
    exact clicked
  next is =>
    have free : (do
        let _ ← Primitive.hide overlays .display
        let _ ← Primitive.click settingsButton false
        return true : Flow Bool).Confined IsFree true :=
      .andThen (Flow.Modest.hide _ _) fun _ => .andThen (Flow.Modest.click _ _) fun _ => .pure _
    refine (warranted_free free).imp fun _ last more _ => ⟨memory, recalled.trans more, fun button same => ?_⟩
    simp [is] at same

theorem warranted_run (handler : Handler) {routine : Routine} (begun : handler.begins routine ∈ told) :
    Warranted warrant (fun _ later => told.Sublist later ∧ (routine = .optOut → handler.plan = .vendor .trustArcTop →
      ∃ memory, Looked later handler memory)) told (handler.run timings routine).run := by
  by_cases top : handler.plan = .vendor .trustArcTop
  · obtain ⟨slot, plan⟩ := handler
    subst top
    by_cases idle : routine.learns = false
    · have free := (Handler.run_idly timings ⟨slot, .vendor .trustArcTop⟩ idle).weaken fun _ => free_fitsIdly
      refine (warranted_free free.1).imp fun _ later grown _ => ⟨grown, ?_⟩
      rintro rfl
      cases idle
    · cases routine with
      | detect => exact warranted_detect.bind fun _ _ _ grown => .done ⟨grown, nofun⟩
      | optIn => exact (warranted_optIn begun).bind fun _ _ _ grown => .done ⟨grown, nofun⟩
      | optOut => exact (warranted_optOut begun).bind fun _ _ grown looked => .done ⟨grown, fun _ _ => looked⟩
      | popup | openSettings | selfTest => exact (idle rfl).elim
  · have free := (Handler.run_apart timings top routine).weaken fun _ => free_fitsApart
    exact (warranted_free free.1).imp fun _ later grown _ => ⟨grown, fun _ is => (top is).elim⟩

theorem warranted_attempt (handler : Handler) (routine : Routine) :
    Warranted warrant (fun _ later => handler.begins routine ∈ later ∧
      (routine = .optOut → handler.plan = .vendor .trustArcTop → ∃ memory, Looked later handler memory)) told
      (handler.attempt timings routine) := by
  refine .afterRequest trivial fun _ => ?_
  have begun : handler.begins routine ∈ told ++ [handler.begins routine] := by simp
  refine (warranted_run timings handler begun).bind fun _ last _ ran => .afterRequest trivial fun _ => .pure ?_
  have more := List.sublist_append_left last
  refine ⟨(more _).subset (ran.1.subset begun), fun refuses top => ?_⟩
  obtain ⟨memory, looked⟩ := ran.2 refuses top
  exact ⟨memory, looked.later (more _)⟩

end Routines

/-! ## What the engine does -/

section Engine

theorem free_undoPrehide : undoPrehide.Confined IsFree true :=
  .andThen (.request trivial trivial) fun _ => .ite (.andThen (.ask trivial _) fun _ => .pure _) (.pure _)

theorem free_giveUp (phase : Phase) : (giveUp phase).Confined IsFree true :=
  .andThen (.request trivial trivial) fun _ => .andThen free_undoPrehide fun _ => .pure _

theorem free_waitUntilReady : (waitUntilReady timings).Confined IsFree true := by
  have looks : isReady.Confined IsFree true := by
    refine .andThen (.request trivial trivial) fun reply => ?_
    cases reply <;> exact .pure _
  exact .andThen (.poll _ looks _) fun _ => .pure _

/-- Once a decision was carried out, the page is complete only if the handler says so. -/
theorem warranted_finish {found : Option Handler} (decision : Decision) {result : Bool}
    (carries : result = true → ∃ handler, found = some handler ∧ Carries told handler decision) (cmp url : String) :
    Warranted warrant (fun _ _ => True) told (do
      if result then
        if ← holds found fun handler => do return !(← handler.isIntermediate) then
          Flow.send (.autoconsentDone cmp url)
      enter .done
      return result) := by
  have last : (do enter .done; return result : Flow Bool).Confined IsFree true :=
    .andThen (.request trivial trivial) fun _ => .pure _
  cases result with
  | false => exact (warranted_free last).any
  | true =>
      obtain ⟨handler, rfl, carried⟩ := carries rfl
      have settles : Warranted warrant (fun completes later => completes = true → Completes later handler decision) told
          (holds (some handler) fun handler => do return !(← handler.isIntermediate)) :=
        .ask trivial fun memory => .done fun final => ⟨told, memory, carried, by simpa using final, .refl _⟩
      refine settles.andThen fun completes later _ settled => ?_
      cases completes with
      | false => exact (warranted_free last).any
      | true => exact .afterRequest ⟨handler, decision, settled rfl⟩ fun _ => (warranted_free last).any

theorem warranted_execute (decision : Decision) :
    Warranted warrant (fun _ _ => True) told (execute timings decision) := by
  refine .afterRequest trivial fun _ => .afterRequest trivial fun known => ?_
  generalize asks : told ++ _ ++ [_] = asked
  have looked : ⟨.state, known⟩ ∈ asked := by simp [← asks]
  have attempted : Warranted warrant (fun result later => result = true → ∃ handler, known.found = some handler ∧
      Carries later handler decision) asked (attempt timings known.found decision.routine) := by
    cases found : known.found with
    | none => exact .pure nofun
    | some handler =>
        refine (warranted_attempt timings handler decision.routine).imp fun _ later grown acted _ => ?_
        obtain ⟨begun, refused⟩ := acted
        exact ⟨handler, rfl, ⟨known, found, grown.subset looked⟩, begun, fun refuses => refused (by rw [refuses]; rfl)⟩
  have tests : (holds known.found Handler.hasSelfTest).Confined IsFree true := by
    cases known.found with
    | none => exact .pure _
    | some handler => exact .andThen (Flow.Modest.recollect _) fun _ => .pure _
  have reports : ∀ told cmp result tests url, warrant told (.send (decision.report cmp result tests url)) := by
    cases decision <;> exact fun _ _ _ _ _ => trivial
  have next : ∀ {told : List Exchange} {exchange : Exchange}, told.Sublist (told ++ [exchange]) :=
    List.sublist_append_left _ _
  refine attempted.andThen fun result acted _ carries => ?_
  refine afterFree free_undoPrehide fun _ _ shown => .afterRequest trivial fun _ => ?_
  refine afterFree Flow.Modest.url fun url _ located => afterFree tests fun _ _ recalled => ?_
  refine .afterRequest (reports _ _ _ _ _) fun _ => ?_
  refine warranted_finish decision (fun succeeds => ?_) _ url
  obtain ⟨handler, found, carried⟩ := carries succeeds
  exact ⟨handler, found, carried.later (shown.trans (next.trans (located.trans (recalled.trans next))))⟩

theorem warranted_decide (action : AutoAction) : Warranted warrant (fun _ _ => True) told (decide timings action) := by
  refine .afterRequest trivial fun _ => ?_
  cases action with
  | optOut => exact warranted_execute timings .optOut
  | optIn => exact warranted_execute timings .optIn
  | doNothing => exact .afterRequest trivial fun _ => .pure trivial

theorem warranted_detectionPass : Warranted warrant (fun _ _ => True) told (detectionPass timings) := by
  have looks : eligible.Confined IsFree true := .andThen Flow.Modest.isTopFrame fun _ =>
    .andThen Flow.Modest.url fun _ => .andThen (.request trivial trivial) fun _ => .pure _
  refine afterFree looks fun handlers _ _ => ?_
  refine .andThen (.all fun flow member => ?_) fun _ _ _ _ => .pure trivial
  obtain ⟨handler, -, rfl⟩ := List.mem_map.mp member
  exact (warranted_attempt timings handler .detect).any

theorem free_reportConflict (found : List Handler) : (reportConflict found).Confined IsFree true := by
  unfold reportConflict
  split
  · exact .request trivial trivial
  · exact .pure _

theorem warranted_findCandidates (retries : Nat) :
    Warranted warrant (fun _ _ => True) told (findCandidates timings retries) := by
  have reports : ∀ {told : List Exchange} (found : List Handler) {rest : Flow (List Handler)},
      (∀ later, Warranted warrant (fun _ _ => True) later rest) →
      Warranted warrant (fun _ _ => True) told (do reportConflict found; rest) := fun found _ onward =>
    afterFree (free_reportConflict found) fun _ later _ => onward later
  induction retries generalizing told with
  | zero =>
      exact (warranted_detectionPass timings).andThen fun found _ _ _ => reports found fun _ => .pure trivial
  | succ retries ih =>
      refine (warranted_detectionPass timings).andThen fun found _ _ _ => reports found fun _ => ?_
      exact .ite (.sleep ih) (.pure trivial)

theorem warranted_start : Warranted warrant (fun _ _ => True) told (start timings) := by
  refine .afterRequest trivial fun known => .afterRequest trivial fun _ => ?_
  refine (warranted_findCandidates timings _).andThen fun candidates _ _ _ => ?_
  refine .ite (warranted_free (free_giveUp _)).any ?_
  refine afterFree Flow.Modest.url fun url _ _ => ?_
  have tells : ∀ handler : Handler, (Flow.send (.cmpDetected url handler.name)).Confined IsFree true := fun _ =>
    .request trivial trivial
  have reports := Confined.each tells candidates
  refine afterFree reports fun _ _ _ => .afterRequest trivial fun _ => ?_
  refine .race (fun lane member => ?_) (warranted_decide timings _) fun outcome later _ => ?_
  · obtain ⟨handler, -, rfl⟩ := List.mem_map.mp member
    refine (warranted_free (confined_candidateLane timings url ?_ ?_ ?_ ?_)).any
    · exact fun _ idly => free_fitsIdly idly
    · exact fun _ => trivial
    · trivial
    · exact fun _ => trivial
  · cases outcome with
    | none => exact (warranted_free (free_giveUp _)).any
    | some acted => exact .pure trivial

theorem warranted_setUp (config : EngineConfig) (rules : RuleSet) :
    Warranted warrant (fun _ _ => True) told (setUp timings config rules) := by
  have starts : ∀ {told : List Exchange}, Warranted warrant (fun _ _ => True) told
      (do waitUntilReady timings; start timings : Flow Bool) :=
    afterFree (free_waitUntilReady timings) fun _ _ _ => warranted_start timings
  have hides : prehide.Confined IsFree true := .andThen (.request trivial trivial) fun _ => .addRule trivial
  refine .afterRequest trivial fun _ => .ite (.afterRequest trivial fun _ => .ite ?_ starts) ?_
  · exact afterFree hides fun _ _ _ => starts
  · exact .afterRequest trivial fun _ => .pure trivial

/-- Whatever the host commands is warranted. -/
theorem warranted_receive (command : Inbound) : Warranted warrant (fun _ _ => True) told (receive timings command) := by
  cases command with
  | initResponse config rules => exact (warranted_setUp timings config rules).andThen fun _ _ _ _ => .pure trivial
  | optOut => exact (warranted_execute timings .optOut).andThen fun _ _ _ _ => .pure trivial
  | optIn => exact (warranted_execute timings .optIn).andThen fun _ _ _ _ => .pure trivial
  | selfTest =>
      have tries : ∀ {told : List Exchange} (found : Option Handler),
          Warranted warrant (fun _ _ => True) told (attempt timings found .selfTest) := by
        intro told found
        cases found with
        | none => exact .pure trivial
        | some handler => exact (warranted_attempt timings handler .selfTest).any
      have tests : Warranted warrant (fun _ _ => True) told (selfTest timings) := by
        refine .afterRequest trivial fun known => (tries known.found).andThen fun result _ _ _ => ?_
        exact afterFree Flow.Modest.url fun url _ _ => .afterRequest trivial fun _ => .pure trivial
      exact tests.andThen fun _ _ _ _ => .pure trivial
  | evalResponse id result => exact .afterRequest trivial fun _ => .pure trivial

end Engine

/-! ## What a passage bears out -/

section Passage

open Visit

variable {timings : Timings} {visits : Nat → Visit} {n place slot : Nat} {exchange : Exchange}

/-- What the handler in a slot remembers has been so: the page has the button, and to allow everything has begun. -/
structure Honest (slot : Nat) (stage : Stage) : Prop where
  shortcut : ∀ button, (stage.ledger.memory slot).shortcut = some button → button ∈ stage.page.select refuseButton
  optIn : (stage.ledger.memory slot).optInDone = true →
    ⟨(handlerIn slot).call .optIn, .begun⟩ ∈ stage.ledger.journal

theorem Honest.precedes {before after : Stage} (honest : Honest slot before) (precedes : before.Precedes after)
    (same : after.ledger.memory slot = before.ledger.memory slot) : Honest slot after := by
  refine ⟨fun button is => ?_, fun done => precedes.journal.subset (honest.optIn (same ▸ done))⟩
  rw [precedes.select]
  exact honest.shortcut button (same ▸ is)

variable (passage : Passage timings visits)

include passage

/-- Whatever a command asks for is warranted by what was told of it. -/
theorem warrant_of_proceeds {later : Visit} (proceeds : (visits n).Proceeds place [exchange] later) :
    ∃ mandate, (visits n).mandates[place]? = some mandate ∧ warrant mandate.story exchange.request := by
  obtain ⟨mandate, flow, stands, step, -⟩ := proceeds
  have steps := (passage.steps stands).trans (.head step (.refl flow))
  obtain ⟨entitled, -⟩ := steps.warranted warrant_lasts
    (warranted_receive timings mandate.command : Warranted warrant _ [] _) fun _ _ _ => trivial
  exact ⟨mandate, stands, (entitled_append.mp entitled).2.1⟩

/-- There was a reason for what a handler of the banner has learned. -/
theorem Honest.learns {change : Memory → Memory} (honest : Honest slot (visits n).stage)
    (proceeds : (visits n).Proceeds place [⟨.remember slot change, ()⟩] (visits (n + 1))) :
    Honest slot (visits (n + 1)).stage := by
  obtain ⟨mandate, stands, grounded⟩ := warrant_of_proceeds passage proceeds
  have precedes := passage.next_precedes n
  have learned : (visits (n + 1)).stage.ledger.memory slot = change ((visits n).stage.ledger.memory slot) := by
    rw [show (visits (n + 1)).stage.ledger = _ from proceeds.replied.ledger]
    simp [Ledger.memory, Ledger.remember, Keyed.get?_put_self]
  obtain ⟨shortcut, optIn⟩ := grounded ((visits n).stage.ledger.memory slot)
  refine ⟨fun button is => ?_, fun done => ?_⟩
  · rw [learned] at is
    rw [precedes.select]
    rcases shortcut button is with old | ⟨nodes, member, asked⟩
    · exact honest.shortcut button old
    · obtain ⟨m, earlier, queried⟩ := passage.whenTold stands asked
      rw [(passage.since (Nat.le_of_lt earlier)).select]
      exact Snapshot.mem_select_of_perform queried.replied.1 button member
  · rw [learned] at done
    refine precedes.journal.subset ?_
    rcases optIn done with old | begun
    · exact honest.optIn old
    · obtain ⟨m, earlier, noted⟩ := passage.whenTold stands begun
      refine (passage.since earlier).journal.subset ?_
      rw [show (visits (m + 1)).stage.ledger = _ from noted.replied.ledger]
      simp [Ledger.record]

theorem honest (blank : (visits 0).stage.ledger.memories = []) (slot n : Nat) : Honest slot (visits n).stage := by
  induction n with
  | zero =>
      have unknown : (visits 0).stage.ledger.memory slot = .blank := by simp [Ledger.memory, blank, Keyed.get?]
      constructor <;> simp [unknown, Memory.blank]
  | succ n ih =>
      rcases (passage.moves n).remembers slot with same | ⟨place, change, proceeds⟩
      · exact ih.precedes (passage.next_precedes n) same
      · exact ih.learns passage proceeds

end Passage

/-! ## What completes a page -/

section Completes

open Visit

/-- A command is to refuse: the host says so, or it is a start that has begun to. -/
def OptsOut (visit : Visit) (place : Nat) : Prop :=
  ∃ mandate, visit.mandates[place]? = some mandate ∧
    (mandate.command = .optOut ∨ ∃ handler : Handler, handler.begins .optOut ∈ mandate.story)

/-- At some moment opting out clicks on a button that refuses everything. -/
structure Clicks (visits : Nat → Visit) (slot place n : Nat) (button : NodeId) (reply : Except PageError Unit) :
    Prop where
  begun : (visits n).Tells place ((handlerIn slot).begins .optOut)
  clicks : (visits n).Proceeds place [⟨.page (.click button), reply⟩] (visits (n + 1))
  refuses : button ∈ (visits n).stage.page.select refuseButton

/-- At some moment opting out finds that no button was remembered. -/
structure Strays (visits : Nat → Visit) (slot place n : Nat) (memory : Memory) : Prop where
  begun : (visits n).Tells place ((handlerIn slot).begins .optOut)
  looks : (visits n).Proceeds place [⟨.memory slot, memory⟩] (visits (n + 1))
  unknown : memory.shortcut = none

/-- Before some moment opting out has clicked on a button that refuses everything, which was part of the page. -/
def Refused (visits : Nat → Visit) (slot place n : Nat) : Prop :=
  ∃ m < n, ∃ button, Clicks visits slot place m button (.ok ()) ∧ (visits m).stage.page.isAttached button = true

/-- Why opting out completes a page though it has refused nothing. -/
inductive Slips (visits : Nat → Visit) (slot place n : Nat) : Prop where
  /-- The button that was remembered is not part of the page any more, or clicks fail. -/
  | missed {m : Nat} {button : NodeId} {error : PageError} (earlier : m < n)
      (clicks : Clicks visits slot place m button (.error error))
      (gone : (visits m).stage.page.isAttached button = false ∨
        (visits m).stage.page.failing.contains "click" = true)
  /-- No button was remembered, but everything was to be allowed once. -/
  | allowed {m k : Nat} {memory : Memory} (earlier : m < k) (later : k < n)
      (strays : Strays visits slot place m memory)
      (begun : ⟨(handlerIn slot).call .optIn, .begun⟩ ∈ (visits k).stage.ledger.journal)
  /-- No button was remembered, but one was seen meanwhile. -/
  | overtaken {m k : Nat} {memory : Memory} (earlier : m < k) (later : k < n)
      (strays : Strays visits slot place m memory)
      (learned : ((visits k).stage.ledger.memory slot).shortcut ≠ none)

variable {timings : Timings} {visits : Nat → Visit} {n place slot : Nat} {mandate : Mandate} {told : List Exchange}
  (passage : Passage timings visits) (blank : (visits 0).stage.ledger.memories = [])

include passage

theorem Carries.found {handler : Handler} {decision : Decision} (carries : Carries told handler decision)
    (stands : (visits n).mandates[place]? = some mandate) (part : told.Sublist mandate.story) :
    (visits n).stage.ledger.engine.found = some handler := by
  obtain ⟨known, found, asked⟩ := carries.chosen
  obtain ⟨m, earlier, looked⟩ := passage.whenTold stands (part.subset asked)
  have knew : known = (visits m).stage.ledger.engine := looked.replied.ledger.1
  exact (passage.since (Nat.le_of_lt earlier)).found handler (knew ▸ found)

include blank

/-- Where a button was remembered, opting out has refused everything or missed. -/
theorem Looked.clicks {memory : Memory} {button : NodeId} (looked : Looked told (handlerIn slot) memory)
    (stands : (visits n).mandates[place]? = some mandate) (part : told.Sublist mandate.story)
    (shortcut : memory.shortcut = some button) : Refused visits slot place n ∨ Slips visits slot place n := by
  have same : ∀ {m : Nat}, m < n → ∀ selector,
      (visits n).stage.page.select selector = (visits m).stage.page.select selector := fun earlier =>
    (passage.since (Nat.le_of_lt earlier)).select
  have refuses : button ∈ (visits n).stage.page.select refuseButton := by
    obtain ⟨m, earlier, recalls, -⟩ := passage.since_tells stands (looked.recalled.trans part)
    have is : memory = (visits m).stage.ledger.memory slot := recalls.replied.ledger.1
    rw [same earlier]
    exact (honest passage blank slot m).shortcut button (is ▸ shortcut)
  obtain ⟨reply, clicked⟩ := looked.clicked button shortcut
  obtain ⟨m, earlier, proceeds, begun⟩ := passage.since_tells stands (clicked.trans part)
  have clicks : Clicks visits slot place m button reply := ⟨begun, proceeds, same earlier refuseButton ▸ refuses⟩
  cases reply with
  | ok _ => exact .inl ⟨m, earlier, button, clicks, Snapshot.isAttached_of_click proceeds.replied.1⟩
  | error error => exact .inr (.missed earlier clicks (Snapshot.gone_of_click proceeds.replied.1))

/-- Where no button was remembered, opting out completes the page only because of what was remembered besides. -/
theorem Looked.strays {memory later : Memory} (looked : Looked told (handlerIn slot) memory)
    (stands : (visits n).mandates[place]? = some mandate)
    (recalled : (told ++ [(⟨.memory slot, later⟩ : Exchange)]).Sublist mandate.story)
    (shortcut : memory.shortcut = none) (final : traits.isIntermediate later = false) : Slips visits slot place n := by
  obtain ⟨k, before, recalls, own, stood, part⟩ := passage.since_told stands recalled
  have is : later = (visits k).stage.ledger.memory slot := recalls.replied.ledger.1
  obtain ⟨m, earlier, looks, begun⟩ := passage.since_tells stood (looked.recalled.trans part)
  have strays : Strays visits slot place m memory := ⟨begun, looks, shortcut⟩
  have reasons : later.optInDone = true ∨ later.shortcut ≠ none := by
    cases done : later.optInDone with
    | true => exact .inl rfl
    | false => exact .inr (by simpa [traits, done, Option.isSome_iff_ne_none] using final)
  rcases reasons with done | learned
  · exact .allowed earlier before strays ((honest passage blank slot k).optIn (is ▸ done))
  · exact .overtaken earlier before strays (is ▸ learned)

/-- Opting out completes a page only where it has clicked on the button that refuses everything, unless the handler
takes it for done because of what it remembers: a button that is gone, one that was seen too late, or that everything
was to be allowed once. -/
theorem optOut_completes {cmp url : String}
    (sends : (visits n).Proceeds place [⟨.send (.autoconsentDone cmp url), ()⟩] (visits (n + 1)))
    (opts : OptsOut (visits n) place) (selected : (visits n).stage.ledger.engine.found = some (handlerIn slot)) :
    Refused visits slot place n ∨ Slips visits slot place n := by
  obtain ⟨mandate, stands, handler, decision, before, memory, carries, final, recalled⟩ :=
    warrant_of_proceeds passage sends
  have part : before.Sublist mandate.story := (List.sublist_append_left _ _).trans recalled
  obtain rfl : handler = handlerIn slot := Option.some.inj ((carries.found passage stands part).symm.trans selected)
  obtain rfl : decision = .optOut := by
    obtain ⟨own, stood, refuses⟩ := opts
    obtain rfl : mandate = own := Option.some.inj (stands.symm.trans stood)
    obtain ⟨chosen, optsOut, same⟩ := decides_once (passage.steps stands)
    rw [same _ decision (part.subset carries.begun)]
    rcases refuses with is | ⟨other, begun⟩
    · exact optsOut is
    · exact (same other .optOut begun).symm
  obtain ⟨remembered, looked⟩ := carries.looked rfl rfl
  cases shortcut : remembered.shortcut with
  | some button => exact looked.clicks passage blank stands part shortcut
  | none => exact .inr (looked.strays passage blank stands recalled shortcut final)

end Completes

/-! ## Pages with the banner -/

section Pages

open Visit

def bannerPage (button : String) : World :=
  untouchedPage (.ofText ("<div id=truste-consent-track><button id=" ++ button ++ "></button></div>"))
    [.vendor .trustArcTop]

/-- What says that the page is complete. -/
def completion : Outbound := .autoconsentDone "TrustArc-top" "https://snapshot.test/"

/-- The handler of the banner is the one that was found. -/
def hasFound (world : World) : Bool :=
  match world.engine.found with
  | some ⟨0, .vendor .trustArcTop⟩ => true
  | _ => false

theorem found_of_hasFound {world : World} (found : hasFound world = true) :
    world.stage.ledger.engine.found = some (handlerIn 0) := by
  unfold hasFound at found
  split at found
  next is => exact is
  next => cases found

theorem exists_passage (world : World) (commands : List Inbound)
    (completes : completion ∉ (world.obey .usual commands).sent ∧
      completion ∈ (world.obey .usual (commands ++ [.optOut])).sent ∧
      hasFound (world.obey .usual (commands ++ [.optOut])) = true) :
    ∃ (visits : Nat → Visit) (n place : Nat), Passage .usual visits ∧ visits 0 = ⟨world.stage, []⟩ ∧
      (visits n).Proceeds place [⟨.send completion, ()⟩] (visits (n + 1)) ∧ OptsOut (visits n) place ∧
      (visits n).stage.ledger.engine.found = some (handlerIn 0) := by
  obtain ⟨mandates, leads⟩ := LeadsTo.obey (.refl : LeadsTo .usual ⟨world.stage, []⟩ ⟨world.stage, []⟩) commands
  obtain ⟨story, follows, leads⟩ := leads.run .optOut
  obtain ⟨visits, last, passage, start, ends⟩ := leads.passage rfl
  obtain ⟨unsaid, said, found⟩ := completes
  rw [World.obey, List.foldl_append] at said found
  have speaks : ∀ id code, completion ≠ .evalRequest id code := by simp [completion]
  have told : ⟨.send completion, ()⟩ ∈ story := (follows.sends speaks said).resolve_left unsaid
  obtain ⟨before, after, split⟩ := List.append_of_mem told
  obtain ⟨n, earlier, sends, own, stood, command, -⟩ := passage.moment (by rw [ends, List.getElem?_concat_length]) split
  refine ⟨visits, n, _, passage, start, sends, ⟨own, stood, .inl command⟩, ?_⟩
  obtain ⟨mandate, stands, handler, decision, _, _, carries, -, recalled⟩ := warrant_of_proceeds passage sends
  have knew := carries.found passage stands ((List.sublist_append_left _ _).trans recalled)
  have knows := (passage.since (Nat.le_of_lt earlier)).found handler knew
  rw [ends] at knows
  exact knew.trans (knows.symm.trans (found_of_hasFound found))

/-- Where the banner has the button, opting out completes the page. -/
theorem optOut_completes_button : ∃ (visits : Nat → Visit) (n place : Nat), Passage .usual visits ∧
    (visits 0).stage.ledger.memories = [] ∧
    (visits n).Proceeds place [⟨.send completion, ()⟩] (visits (n + 1)) ∧ OptsOut (visits n) place ∧
    (visits n).stage.ledger.engine.found = some (handlerIn 0) ∧
    (Refused visits 0 place n ∨ Slips visits 0 place n) := by
  obtain ⟨visits, n, place, passage, start, sends, opts, found⟩ := exists_passage
    (bannerPage "truste-consent-required") [.initResponse .initial .empty] (by decide +kernel)
  have blank : (visits 0).stage.ledger.memories = [] := by rw [start]; rfl
  exact ⟨visits, n, place, passage, blank, sends, opts, found, optOut_completes passage blank sends opts found⟩

/-- Where it has none, opting out completes the page all the same once everything was to be allowed. -/
theorem optOut_completes_buttonless : ∃ (visits : Nat → Visit) (n place : Nat), Passage .usual visits ∧
    (visits 0).stage.ledger.memories = [] ∧
    (visits n).Proceeds place [⟨.send completion, ()⟩] (visits (n + 1)) ∧ OptsOut (visits n) place ∧
    (visits n).stage.ledger.engine.found = some (handlerIn 0) ∧ ¬Refused visits 0 place n := by
  obtain ⟨visits, n, place, passage, start, sends, opts, found⟩ := exists_passage
    (bannerPage "truste-show-consent") [.initResponse .initial .empty, .optIn] (by decide +kernel)
  refine ⟨visits, n, place, passage, by rw [start]; rfl, sends, opts, found, ?_⟩
  rintro ⟨m, -, button, clicks, -⟩
  have none : (bannerPage "truste-show-consent").page.select refuseButton = [] := by decide +kernel
  have refuses := clicks.refuses
  rw [(passage.since m.zero_le).select, start] at refuses
  exact List.not_mem_nil (none ▸ refuses)

end Pages

end TrustArcTop
end ConsentBanner

import ConsentBanner.Proofs.Engine.Completion
import ConsentBanner.Proofs.Engine.Contest
import ConsentBanner.Proofs.Engine.Errand

/-!
# The handler that is confirmed

A start confirms a candidate whose dialog shows at the earliest time, in whatever order the candidates
were registered and however long they take.
-/

set_option autoImplicit false

namespace ConsentBanner.Engine

def IsScripted (handler : Handler) : Prop := ∃ script, handler.plan = .scripted script

/-- The confirmed handler is a candidate whose wait comes to true first; nobody is confirmed only if no
wait does. -/
structure WonBy (candidates : List Handler) (fate : Handler → Option Nat) (found : Option Handler) :
    Prop where
  first : ∀ handler, found = some handler → IsFirst candidates fate handler
  unmet : found = none → ∀ handler ∈ candidates, fate handler = none

namespace WonBy

variable {candidates : List Handler} {fate : Handler → Option Nat} {found : Option Handler}

/-- Who comes to true before all others is confirmed. -/
theorem strictly (won : WonBy candidates fate found) {handler : Handler} {time : Nat}
    (member : handler ∈ candidates) (due : fate handler = some time)
    (before : ∀ other ∈ candidates, other ≠ handler → ∀ later, fate other = some later → time < later) :
    found = some handler := by
  cases held : found with
  | none =>
      rw [won.unmet held handler member] at due
      cases due
  | some other =>
      obtain ⟨candidate, soonest, soon, first⟩ := won.first other held
      by_cases same : other = handler
      · rw [same]
      · have later := before other candidate same soonest soon
        have sooner := first handler member time due
        omega

/-- Who never comes to true is not confirmed. -/
theorem never (won : WonBy candidates fate found) {handler : Handler} (missing : fate handler = none) :
    found ≠ some handler := by
  intro held
  obtain ⟨-, time, due, -⟩ := won.first handler held
  rw [missing] at due
  cases due

/-- The order of times does not depend on when they are counted from. -/
theorem relative {clock : Nat} (won : WonBy candidates (fun handler => (fate handler).map (clock + ·)) found) :
    WonBy candidates fate found := by
  refine ⟨fun handler held => ?_, fun unfound handler member => ?_⟩
  · obtain ⟨member, _, due, first⟩ := won.first handler held
    obtain ⟨time, isTime, rfl⟩ := Option.map_eq_some_iff.mp due
    refine ⟨member, time, isTime, fun other within later isLater => ?_⟩
    exact Nat.le_of_add_le_add_left (first other within _ (congrArg (Option.map (clock + ·)) isLater))
  · exact Option.map_eq_none_iff.mp (won.unmet unfound handler member)

end WonBy

/-- Reports the candidates before they are waited for. -/
def introduce (candidates : List Handler) : Flow String := do
  let url ← Primitive.url
  Flow.each (fun handler => Flow.send (.cmpDetected url handler.name)) candidates
  enter .confirming
  return url

/-- What is done when the race is over. -/
def finish : Option Bool → Flow Bool
  | none => giveUp .noPopup
  | some acted => pure acted

/-- All candidates are waited for side by side. -/
def raceFor (timings : Timings) (action : AutoAction) (candidates : List Handler) (url : String) :
    Flow (Option Bool) :=
  .race (candidates.map (candidateLane timings url)) false (decide timings action) .done

theorem react_eq (timings : Timings) (action : AutoAction) {candidates : List Handler}
    (some : candidates ≠ []) : react timings action candidates =
      (introduce candidates).bind fun url => (raceFor timings action candidates url).bind finish := by
  have nonempty : candidates.isEmpty = false := List.isEmpty_eq_false_iff.mpr some
  unfold react introduce raceFor
  simp only [nonempty, Bool.false_eq_true, if_false, Flow.andThen_eq, Flow.pure_eq, Flow.bind_assoc, Flow.bind]
  rfl

theorem steady_introduce (candidates : List Handler) : Steady (· ≠ .popup) (introduce candidates) :=
  .andThen steady_url fun _ => .andThen (.each (fun _ => steady_send _) _) fun _ =>
    .andThen (steady_enter _) fun _ => .pure _

theorem steady_finish (outcome : Option Bool) : Steady (· ≠ .popup) (finish outcome) := by
  cases outcome with
  | none => exact steady_giveUp _
  | some acted => exact .pure _

theorem steady_played {α : Type} {flow : Flow α} {rehearsal last : Rehearsal} {fuel : Nat} {value : α}
    (steady : Steady (· ≠ .popup) flow) (played : rehearsal.playFlow fuel flow = (some value, last)) :
    Ledger.Steady rehearsal.world.ledger last.world.ledger :=
  (Rehearsal.playFlow_turns played).respects steady_respects steady

/-- When each of some candidates comes to true, counted from the start of the race. -/
def fates (timings : Timings) (world : World) (handler : Handler) : Option Nat :=
  handler.confirmsAfter timings (world.callsOf (handler.call .popup))

theorem fates_steady (timings : Timings) {before after : World}
    (steady : Ledger.Steady before.ledger after.ledger) : fates timings after = fates timings before :=
  funext fun handler => congrArg (handler.confirmsAfter timings) (steady.looks (handler.call .popup) rfl)

/-- The points in time at which they do. -/
def dueTimes (timings : Timings) (world : World) (handler : Handler) : Option Nat :=
  (fates timings world handler).map (world.clock + ·)

theorem contest_start (timings : Timings) (url : String) {candidates : List Handler} {world : World}
    (unfound : world.engine.found = none) (scripted : ∀ handler ∈ candidates, IsScripted handler)
    (apart : (candidates.map Handler.slot).Nodup) :
    Contest url candidates (dueTimes timings world)
      (candidates.map fun handler => (handler, candidateLane timings url handler)) world := by
  refine ⟨fun entrant member => ?_, fun entrant member => ?_, ?_, fun handler held => ?_, fun _ handler => ?_⟩
  · obtain ⟨handler, within, rfl⟩ := List.mem_map.mp member
    obtain ⟨script, follows⟩ := scripted handler within
    obtain ⟨yes, last, count, meets, lasts⟩ := lasts_waitForPopup timings follows world.clock
      (world.callsOf (handler.call .popup))
    exact .waits meets lasts
  · obtain ⟨handler, within, rfl⟩ := List.mem_map.mp member
    exact within
  · rw [List.map_map]
    exact apart
  · rw [unfound] at held
    cases held
  · intro member _
    rw [List.map_map]
    exact List.mem_map.mpr ⟨handler, member, rfl⟩

/-- Of all scripted candidates one whose dialog shows first is confirmed. -/
theorem react_won (timings : Timings) (action : AutoAction) {candidates : List Handler}
    {rehearsal last : Rehearsal} (unfound : rehearsal.world.engine.found = none)
    (scripted : ∀ handler ∈ candidates, IsScripted handler)
    (apart : (candidates.map Handler.slot).Nodup) {fuel : Nat} {result : Bool}
    (played : rehearsal.playFlow fuel (react timings action candidates) = (some result, last)) :
    WonBy candidates (fates timings rehearsal.world) last.world.engine.found := by
  by_cases empty : candidates = []
  · subst empty
    have steady : Ledger.Steady rehearsal.world.ledger last.world.ledger :=
      steady_played (steady_giveUp .noneFound) played
    refine ⟨fun handler held => ?_, fun _ => nofun⟩
    have none : last.world.engine.found = none := steady.found.trans unfound
    rw [none] at held
    cases held
  · rw [react_eq timings action empty] at played
    obtain ⟨url, racing, _, introduces, played⟩ := Rehearsal.playFlow_bind played
    obtain ⟨outcome, raced, _, races, finishes⟩ := Rehearsal.playFlow_bind played
    have before := steady_played (steady_introduce candidates) introduces
    have after := steady_played (steady_finish outcome) finishes
    have contest := contest_start timings url (before.found.trans unfound) scripted apart
    have contested : Contested url candidates (dueTimes timings racing.world) racing.world
        (raceFor timings action candidates url) := by
      have raced := @Contested.racing url candidates _ racing.world _ false _ contest
        (steady_decide timings action fun decision => by cases decision <;> nofun)
      rw [List.map_map] at raced
      exact raced
    cases contested_keeps.play races contested with
    | ended contest =>
        have won : WonBy candidates (fates timings racing.world) raced.world.engine.found :=
          WonBy.relative ⟨contest.first, fun unfound handler member => by
            refine Option.not_isSome_iff_eq_none.mp fun met => ?_
            exact absurd (contest.unmet unfound handler member met) List.not_mem_nil⟩
        rw [fates_steady timings before] at won
        have same : last.world.engine.found = raced.world.engine.found := after.found
        exact same ▸ won

/-- What a start does before it reacts. -/
def search (timings : Timings) (config : EngineConfig) : Flow (List Handler) := do
  enter .detecting
  findCandidates timings config.detectRetries

theorem start_run (timings : Timings) (world : World) : (start timings).run world =
    ((search timings world.engine.config).bind (react timings world.engine.config.autoAction)).run world := by
  rfl

theorem steady_search (timings : Timings) (config : EngineConfig) :
    Steady (· ≠ .popup) (search timings config) :=
  .andThen (steady_enter _) fun _ => steady_findCandidates timings nofun _

theorem start_playFlow (timings : Timings) (rehearsal : Rehearsal) (fuel : Nat) :
    rehearsal.playFlow fuel (start timings) = rehearsal.playFlow fuel
      ((search timings rehearsal.world.engine.config).bind
        (react timings rehearsal.world.engine.config.autoAction)) := by
  cases fuel with
  | zero => rfl
  | succ fuel => simp only [Rehearsal.playFlow, start_run]

/-- Looking for candidates leaves the roster as it is. -/
theorem detects_roster (handlers : List Handler)
    (quietly : Part.Keeps Ledger.Quiet fun now => now.engine.handlers = handlers) :
    Terms.Detects Terms.alone (.keeping _ quietly) (fun now => now.engine.handlers = handlers)
      fun _ => True where
  relies same knows := same ▸ knows
  allows _ := trivial
  social := id
  stable knows relied := relied knows
  quietly := quietly
  roster _ _ _ _ := trivial
  notes _ _ _ _ knows := ⟨fun _ => knows, knows⟩
  reports _ _ knows := ⟨trivial, knows⟩

/-- The candidates are among the handlers that take part. -/
theorem search_sublist (timings : Timings) (config : EngineConfig) {rehearsal reacting : Rehearsal} {fuel : Nat}
    {candidates : List Handler}
    (played : rehearsal.playFlow fuel (search timings config) = (some candidates, reacting)) :
    candidates.Sublist rehearsal.world.engine.handlers := by
  generalize roster : rehearsal.world.engine.handlers = handlers
  have quietly : Part.Keeps Ledger.Quiet fun now => now.engine.handlers = handlers :=
    fun knows quiet => (congrArg EngineState.handlers quiet.engine).trans knows
  have does : Terms.alone.Does (fun now => now.engine.handlers = handlers) (search timings config)
      fun candidates now => now.engine.handlers = handlers ∧ ∃ all, all = handlers ∧ candidates.Sublist all := by
    refine Terms.Does.via (fun _ now => now.engine.handlers = handlers)
      (Terms.does_update fun now knows => ⟨trivial, knows⟩) fun _ => ?_
    exact (detects_roster handlers quietly).does_findCandidates (fun all => all = handlers) timings
      (fun _ knows => knows) config.detectRetries
  obtain ⟨-, _, rfl, part⟩ := does.ends roster (Rehearsal.playFlow_turns played)
  exact part

def IsElective (candidates : List Handler) : {β : Type} → Request β → Prop
  | _, .update change => ∀ state : EngineState, ∀ handler, (change state).found = some handler →
      state.found = some handler ∨ handler ∈ candidates
  | _, _ => True

/-- Nobody is confirmed but one of some handlers. -/
def Elects (candidates : List Handler) (before after : Ledger) : Prop :=
  ∀ handler, after.engine.found = some handler → before.engine.found = some handler ∨ handler ∈ candidates

theorem elective_respects (candidates : List Handler) :
    Flow.Respects (IsElective candidates) (Elects candidates) where
  refl _ _ held := .inl held
  trans one two handler held := (two handler held).elim (one handler) .inr
  reply {_ request _ before after} allowed replied := by
    rw [replied.eq_upon]
    cases request with
    | update change => exact allowed before.engine
    | _ => exact fun _ held => .inl held

/-- Who is confirmed in the race is one of the candidates. -/
theorem react_elects (timings : Timings) (action : AutoAction) {candidates : List Handler} {first last : Ledger}
    {result : Bool} (turns : (react timings action candidates).Turns first (.done result) last) :
    Elects candidates first last := by
  have confined : (react timings action candidates).Confined (IsElective candidates) true := by
    refine @confined_react _ (fun _ => True) timings action _ (fun _ => trivial) (fun request steady => ?_)
      (fun request looks => ?_) (fun _ _ _ => trivial) fun handler member state other held => ?_
    · cases request with
      | update change =>
          intro state handler held
          obtain ⟨phase, is⟩ := steady state
          rw [is] at held
          exact .inl held
      | _ => trivial
    · cases request with
      | update change => cases looks
      | _ => trivial
    · rw [EngineState.found_confirm, Option.some.injEq] at held
      cases known : state.found with
      | none =>
          rw [known] at held
          exact .inr (held ▸ member)
      | some first =>
          rw [known] at held
          exact .inl (congrArg some held)
  exact turns.respects (elective_respects candidates) confined

theorem start_lawful (timings : Timings) {moved : Flow Bool} {first last : Ledger}
    (turns : (start timings).Turns first moved last) :
    Lawful first last ∧ ∀ {after : Flow Bool} {later : Ledger}, moved.Turns last after later →
      Lawful last later := by
  let charge : Charge := ⟨.initResponse .initial .empty, none⟩
  have holds : (charge.terms.part (fun _ _ => True) fun _ _ _ _ _ => trivial).Holds (start timings) first :=
    (charge.does_start rfl timings).holds (fun _ _ => trivial) trivial
  have ⟨did, goesOn⟩ := Terms.turns_keep turns holds
  exact ⟨did.lawful, fun turns => (Terms.turns_keep turns goesOn).1.lawful⟩

def inOrder (rehearsal : Rehearsal) (order : List Handler) : Rehearsal :=
  { rehearsal with world := { rehearsal.world with engine := { rehearsal.world.engine with handlers := order } } }

theorem Slotted.inOrder {state : EngineState} (slotted : state.Slotted) {order : List Handler}
    (same : order.Perm state.handlers) : ({ state with handlers := order } : EngineState).Slotted :=
  ⟨(same.map Handler.slot).nodup_iff.mpr slotted.distinct,
    fun handler member => slotted.given handler (same.mem_iff.mp member)⟩

/-- At a moment of a run: whoever came to true first is confirmed, and stays so to the end. -/
structure Settles (moment last : World) : Prop where
  held : moment.engine.found.map Handler.badge = (confirmations moment.journal).head?
  stays : ∀ handler, moment.engine.found = some handler → last.engine.found = some handler

/-- In whatever order the handlers were registered, a start where nobody is confirmed comes to an end and
confirms a candidate that came to true first, if any did.  Of scripted candidates that is one whose wait
is the shortest by its script: never one whose wait is in vain, and the one that is ahead of all others
if there is such a one. -/
theorem start_confirms_first (timings : Timings) {rehearsal : Rehearsal} {order : List Handler}
    (unfound : rehearsal.world.engine.found = none) (slotted : rehearsal.world.engine.Slotted)
    (same : order.Perm rehearsal.world.engine.handlers) :
    (inOrder rehearsal order).Plays (start timings) ∧
      ∀ fuel result last, (inOrder rehearsal order).playFlow fuel (start timings) = (some result, last) →
        ∃ candidates spent reacting,
          (inOrder rehearsal order).playFlow spent (search timings rehearsal.world.engine.config) =
            (some candidates, reacting) ∧
          candidates.Sublist order ∧
          (∀ handler, last.world.engine.found = some handler → handler ∈ candidates) ∧
          (rehearsal.world.ledger.Sound → ∀ spent ≤ fuel, ∀ outcome moment,
            (inOrder rehearsal order).playFlow spent (start timings) = (outcome, moment) →
              Settles moment.world last.world) ∧
          ((∀ handler ∈ candidates, IsScripted handler) →
            WonBy candidates (fates timings rehearsal.world) last.world.engine.found ∧
            (∀ handler, fates timings rehearsal.world handler = none →
              last.world.engine.found ≠ some handler) ∧
            ∀ handler ∈ candidates, ∀ time, fates timings rehearsal.world handler = some time →
              (∀ other ∈ candidates, other ≠ handler →
                ∀ later, fates timings rehearsal.world other = some later → time < later) →
              last.world.engine.found = some handler) := by
  refine ⟨Rehearsal.plays _ (alone_start timings), fun fuel result last played => ?_⟩
  have turns := Rehearsal.playFlow_turns played
  have parts := played
  rw [start_playFlow] at parts
  obtain ⟨candidates, reacting, rest, searches, reacts⟩ := Rehearsal.playFlow_bind parts
  have steady := steady_played (steady_search timings _) searches
  have unfoundYet : reacting.world.engine.found = none := steady.found.trans unfound
  have among := search_sublist timings _ searches
  refine ⟨candidates, fuel, reacting, searches, among, fun handler held => ?_,
    fun sound spent within outcome moment early => ?_, fun scripted => ?_⟩
  · rcases react_elects timings _ (Rehearsal.playFlow_turns reacts) handler held with before | member
    · exact absurd (unfoundYet.symm.trans before) nofun
    · exact member
  · obtain ⟨moved, before, after⟩ := Rehearsal.playFlow_between within early played
    have ⟨did, onward⟩ := start_lawful timings before
    have start : (inOrder rehearsal order).world.ledger.Sound :=
      ⟨sound.held, sound.told, sound.announced, sound.concluded, sound.rightful⟩
    exact ⟨(did.sound start).held, (onward after).stays⟩
  · have apart := (Slotted.inOrder slotted same).distinct.sublist (among.map Handler.slot)
    have won := react_won timings _ unfoundYet scripted apart reacts
    rw [fates_steady timings steady] at won
    exact ⟨won, fun handler => won.never, fun handler member time due before => won.strictly member due before⟩

/-- A handler whose dialog shows at once. -/
def promptBanner : ScriptedHandler := { tardyBanner with name := "notice", script := fun _ => [.reply true] }

def twoBanners : Rehearsal :=
  .start (untouchedPage (.ofText "<div id=banner></div>") [.scripted tardyBanner, .scripted promptBanner]) [] [] false

theorem start_confirms_first_prompt :
    fates .usual twoBanners.world ⟨0, .scripted tardyBanner⟩ = some 600 ∧
      fates .usual twoBanners.world ⟨1, .scripted promptBanner⟩ = some 0 ∧
      twoBanners.world.engine.found = none ∧ twoBanners.world.engine.Slotted ∧
      (inOrder twoBanners [⟨1, .scripted promptBanner⟩, ⟨0, .scripted tardyBanner⟩]).Plays (start .usual) := by
  have slotted : twoBanners.world.engine.Slotted := EngineState.slotted_initial.addAll _
  exact ⟨rfl, rfl, rfl, slotted, (start_confirms_first .usual rfl slotted (.swap _ _ _)).1⟩

end ConsentBanner.Engine

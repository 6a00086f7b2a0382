import ConsentBanner.Flow.Run
import ConsentBanner.Proofs.Flow.Turn

/-!
# Runs are turns

To run a flow is to let it take turns, in one particular order.  `Flow.run_adequate` says so of every
flow in every world, and that a flow is left as it is only where it can not go on.
-/

set_option autoImplicit false

namespace ConsentBanner.Flow

variable {α β γ : Type}

theorem value?_eq_some {flow : Flow α} {value : α} : flow.value? = some value ↔ flow = .done value := by
  cases flow <;> simp [value?]

theorem earlier_eq_none {one two : Option Nat} : earlier one two = none ↔ one = none ∧ two = none := by
  cases one <;> cases two <;> simp [earlier]

def Moves (flow : Flow α) (before : Ledger) (after : Flow α) (later : Ledger) : Prop :=
  ∃ between middle, Turn flow before between middle ∧ Turns between middle after later

def Goes (flow : Flow α) (before : Ledger) (after : Flow α) (later : Ledger) : Prop :=
  ∃ between middle, Burst flow before between middle ∧ Turns between middle after later

def Rests (world : World) (flow : Flow α) : Prop :=
  flow.value?.isSome = true ∨ flow.readyAt world = none

/-- A flow that is run takes turns, or it rests and everything stays as it is. -/
def Runs (flow : Flow α) (world : World) (result : Flow α × World) : Prop :=
  Moves flow world.ledger result.1 result.2.ledger ∨ result = (flow, world) ∧ Rests world flow

/-- What running a flow has to show: where it does not give way it goes on by itself first. -/
structure Adequate (flow : Flow α) (world : World) (result : Flow α × World) : Prop where
  goes : Goes flow world.ledger result.1 result.2.ledger
  runs : Runs flow world result

theorem Moves.turns {flow after : Flow α} {before later : Ledger} (moves : Moves flow before after later) :
    Turns flow before after later := by
  obtain ⟨between, middle, turn, rest⟩ := moves
  exact .head turn rest

theorem Moves.trans {flow between after : Flow α} {before middle later : Ledger}
    (moves : Moves flow before between middle) (turns : Turns between middle after later) :
    Moves flow before after later := by
  obtain ⟨first, early, turn, rest⟩ := moves
  exact ⟨first, early, turn, rest.trans turns⟩

theorem Turns.andMoves {flow between after : Flow α} {before middle later : Ledger}
    (turns : Turns flow before between middle) (moves : Moves between middle after later) :
    Moves flow before after later := by
  cases turns with
  | refl => exact moves
  | head turn rest => exact ⟨_, _, turn, rest.trans moves.turns⟩

theorem Moves.lift {frame : Flow α → Flow β}
    (frames : ∀ {flow after : Flow α} {before later : Ledger}, Turn flow before after later →
      Turn (frame flow) before (frame after) later)
    {flow after : Flow α} {before later : Ledger} (moves : Moves flow before after later) :
    Moves (frame flow) before (frame after) later := by
  obtain ⟨between, middle, turn, rest⟩ := moves
  exact ⟨frame between, middle, frames turn, rest.lift frames⟩

theorem Goes.moves {flow next after : Flow α} {before later : Ledger} (goes : Goes next before after later)
    (turn : ∀ {between : Flow α} {middle : Ledger}, Burst next before between middle →
      Turn flow before between middle) : Moves flow before after later := by
  obtain ⟨between, middle, burst, rest⟩ := goes
  exact ⟨between, middle, turn burst, rest⟩

theorem Runs.turns {flow : Flow α} {world : World} {result : Flow α × World}
    (runs : Runs flow world result) : Turns flow world.ledger result.1 result.2.ledger := by
  rcases runs with moves | ⟨rfl, -⟩
  · exact moves.turns
  · exact .refl _ _

theorem Runs.adequate {flow : Flow α} {world : World} {result : Flow α × World}
    (runs : Runs flow world result) (waits : flow.givesWay = true) : Adequate flow world result :=
  ⟨⟨flow, world.ledger, .rest _ waits, runs.turns⟩, runs⟩

theorem Goes.adequate {flow : Flow α} {world : World} {result : Flow α × World}
    (goes : Goes flow world.ledger result.1 result.2.ledger) (goesOn : flow.givesWay = false) :
    Adequate flow world result :=
  ⟨goes, .inl (goes.moves fun burst => .start goesOn burst)⟩

/-! ## Races -/

/-- What the lanes of a race are while some of them are taken further. -/
def lanesNow (moved : List (Nat × Flow Bool)) (lanes : List Lane) : List (Flow Bool) :=
  lanes.map fun lane =>
    match moved.find? fun entry => entry.1 = lane.place with
    | some (_, flow) => flow
    | none => lane.flow

theorem remaining_eq (moved : List (Nat × Flow Bool)) (lanes : List Lane) :
    remaining moved lanes = (lanesNow moved lanes).filter fun flow => flow.value?.isNone := rfl

/-- Lanes that are done are left behind. -/
theorem leave_done {started : Bool} {winner : Flow Bool} {next : Option Bool → Flow α} (ledger : Ledger) :
    ∀ (ahead lanes : List (Flow Bool)), (.done true ∈ lanes → started = true) →
      Turns (.race (ahead ++ lanes) started winner next) ledger
        (.race (ahead ++ lanes.filter fun flow => flow.value?.isNone) started winner next) ledger := by
  intro ahead lanes
  induction lanes generalizing ahead with
  | nil => exact fun _ => .refl _ _
  | cons lane rest ih =>
      intro noticed
      have later := fun member => noticed (List.mem_cons_of_mem lane member)
      cases value : lane.value? with
      | some value' =>
          obtain rfl := value?_eq_some.mp value
          rw [List.filter_cons_of_neg (by simp [value])]
          refine .head (.leave ledger ?_) (ih ahead later)
          rintro rfl
          exact noticed List.mem_cons_self
      | none =>
          rw [List.filter_cons_of_pos (by simp [value])]
          have onward := ih (ahead ++ [lane]) later
          rw [List.append_assoc, List.append_assoc] at onward
          exact onward

theorem leave_moves {started value : Bool} {winner : Flow Bool} {next : Option Bool → Flow α}
    (ledger : Ledger) {lanes : List (Flow Bool)} (isDone : .done value ∈ lanes)
    (noticed : .done true ∈ lanes → started = true) :
    Moves (.race lanes started winner next) ledger
      (.race (lanes.filter fun flow => flow.value?.isNone) started winner next) ledger := by
  obtain ⟨ahead, behind, rfl⟩ := List.append_of_mem isDone
  have leave : Turn (.race (ahead ++ .done value :: behind) started winner next) ledger
      (.race (ahead ++ behind) started winner next) ledger :=
    .leave ledger fun wins => noticed (wins ▸ isDone)
  have others : Turns (.race ([] ++ (ahead ++ behind)) started winner next) ledger _ ledger :=
    leave_done ledger [] (ahead ++ behind) fun member => noticed (by
      simp only [List.mem_append, List.mem_cons] at member ⊢
      exact member.imp id .inr)
  refine ⟨_, _, leave, ?_⟩
  rw [List.filter_append, List.filter_cons_of_neg (by simp [value?]), ← List.filter_append]
  exact others

theorem lanesNow_append (moved : List (Nat × Flow Bool)) (ahead behind : List Lane) :
    lanesNow moved (ahead ++ behind) = lanesNow moved ahead ++ lanesNow moved behind :=
  List.map_append

theorem lanesNow_apart {moved : List (Nat × Flow Bool)} {lanes : List Lane} {place : Nat}
    {flow : Flow Bool} (apart : ∀ lane ∈ lanes, lane.place ≠ place) :
    lanesNow (moved ++ [(place, flow)]) lanes = lanesNow moved lanes := by
  refine List.map_congr_left fun lane member => ?_
  have other : place ≠ lane.place := (apart lane member).symm
  simp [List.find?_append, other]

theorem Turns.asLane {ahead behind : List (Flow Bool)} {lane moved : Flow Bool} {started : Bool}
    {winner : Flow Bool} {next : Option Bool → Flow α} {before later : Ledger}
    (turns : Turns lane before moved later) :
    Turns (.race (ahead ++ lane :: behind) started winner next) before
      (.race (ahead ++ moved :: behind) started winner next) later :=
  turns.lift fun turn => .lane turn

theorem Moves.asLane {ahead behind : List (Flow Bool)} {lane moved : Flow Bool} {started : Bool}
    {winner : Flow Bool} {next : Option Bool → Flow α} {before later : Ledger}
    (moves : Moves lane before moved later) :
    Moves (.race (ahead ++ lane :: behind) started winner next) before
      (.race (ahead ++ moved :: behind) started winner next) later := by
  obtain ⟨between, middle, turn, rest⟩ := moves
  exact ⟨_, middle, .lane turn, rest.asLane⟩

theorem Turns.asWinner {lanes : List (Flow Bool)} {winner moved : Flow Bool}
    {next : Option Bool → Flow α} {before later : Ledger} (turns : Turns winner before moved later) :
    Turns (.race lanes true winner next) before (.race lanes true moved next) later :=
  turns.lift fun turn => .winner turn

/-- One of the lanes is taken further. -/
structure Picks (entries : List Lane) (moved : List (Nat × Flow Bool)) (lane : Lane)
    (ahead behind : List (Flow Bool)) : Prop where
  before : lanesNow moved entries = ahead ++ lane.flow :: behind
  after : ∀ flow, lanesNow (moved ++ [(lane.place, flow)]) entries = ahead ++ flow :: behind

theorem picks {entries : List Lane} {moved : List (Nat × Flow Bool)} {lane : Lane}
    (distinct : (entries.map Lane.place).Nodup) (member : lane ∈ entries)
    (unmoved : ∀ entry ∈ moved, entry.1 ≠ lane.place) :
    ∃ ahead behind, Picks entries moved lane ahead behind := by
  obtain ⟨ahead, behind, rfl⟩ := List.append_of_mem member
  rw [List.map_append, List.map_cons, List.nodup_append, List.nodup_cons] at distinct
  obtain ⟨-, ⟨notBehind, -⟩, notAhead⟩ := distinct
  have missing : moved.find? (fun entry => entry.1 = lane.place) = none :=
    List.find?_eq_none.mpr fun entry within => by simpa using unmoved entry within
  refine ⟨lanesNow moved ahead, lanesNow moved behind, ?_, fun flow => ?_⟩
  · rw [lanesNow_append]
    simp [lanesNow, missing]
  · have apartAhead : ∀ other ∈ ahead, other.place ≠ lane.place := fun other within =>
      notAhead other.place (List.mem_map_of_mem within) lane.place List.mem_cons_self
    have apartBehind : ∀ other ∈ behind, other.place ≠ lane.place := fun other within same =>
      notBehind (same ▸ List.mem_map_of_mem within)
    have own : lanesNow (moved ++ [(lane.place, flow)]) [lane] = [flow] := by
      simp [lanesNow, List.find?_append, missing]
    have split : lane :: behind = [lane] ++ behind := rfl
    rw [lanesNow_append, lanesNow_apart apartAhead, split, lanesNow_append, own,
      lanesNow_apart apartBehind]
    rfl

/-- What is kept while lanes are taken further: the winner has been started if a lane has come to
true, and not otherwise. -/
structure Tracks (winner : Flow Bool) (state : Race) : Prop where
  unstarted : state.started = false → state.winner = winner
  noticed : ∀ entry ∈ state.moved, entry.2 = .done true → state.started = true

/-- To take lanes further is to take them further one after the other. -/
theorem runLanes_cons (runWinner : Runner) (lane : Lane) (rest : List Lane) (state : Race) :
    runLanes runWinner (lane :: rest) state =
      runLanes runWinner rest (runLanes runWinner [lane] state) := by
  simp only [runLanes]
  split <;> rfl

theorem places_runLanes (runWinner : Runner) : ∀ (todo : List Lane) (state : Race),
    (runLanes runWinner todo state).moved.map Prod.fst =
      state.moved.map Prod.fst ++ todo.map Lane.place := by
  intro todo
  induction todo with
  | nil => simp [runLanes]
  | cons lane rest ih =>
      intro state
      unfold runLanes
      obtain ⟨flow, world⟩ := lane.run state.world
      simp only
      split <;> simp [ih]

/-- What a race has to show when some lanes were taken further. -/
structure Advances (entries : List Lane) (winner : Flow Bool) (next : Option Bool → Flow α)
    (state after : Race) : Prop where
  turns : Turns (.race (lanesNow state.moved entries) state.started state.winner next)
    state.world.ledger (.race (lanesNow after.moved entries) after.started after.winner next)
    after.world.ledger
  tracks : Tracks winner after

/-- When a lane was taken further, the winner may have to start. -/
theorem runLane_after {entries : List Lane} {runWinner : Runner} {winner : Flow Bool}
    {next : Option Bool → Flow α} (lead : ∀ world, Adequate winner world (runWinner world)) {lane : Lane}
    {state : Race} {ahead behind : List (Flow Bool)} (pick : Picks entries state.moved lane ahead behind)
    (tracks : Tracks winner state) :
    Tracks winner (runLanes runWinner [lane] state) ∧
      Turns (.race (ahead ++ (lane.run state.world).1 :: behind) state.started state.winner next)
        (lane.run state.world).2.ledger
        (.race (lanesNow (runLanes runWinner [lane] state).moved entries)
          (runLanes runWinner [lane] state).started (runLanes runWinner [lane] state).winner next)
        (runLanes runWinner [lane] state).world.ledger := by
  unfold runLanes
  generalize lane.run state.world = result
  obtain ⟨flow, world⟩ := result
  have noticed : ∀ entry ∈ state.moved ++ [(lane.place, flow)], entry.2 = .done true →
      flow = .done true ∨ state.started = true := by
    intro entry isMoved is
    rcases List.mem_append.mp isMoved with old | new
    · exact .inr (tracks.noticed entry old is)
    · obtain rfl := List.mem_singleton.mp new
      exact .inl is
  simp only
  split
  next value unstarted =>
    obtain rfl := value?_eq_some.mp value
    have led := (lead world).runs.turns
    generalize runWinner world = result at led ⊢
    obtain ⟨leader, later⟩ := result
    simp only [runLanes]
    refine ⟨⟨nofun, fun _ _ _ => rfl⟩, ?_⟩
    rw [unstarted, tracks.unstarted unstarted, pick.after]
    exact .head (.win world.ledger (by simp)) led.asWinner
  next unwon =>
    simp only [runLanes]
    refine ⟨⟨tracks.unstarted, fun entry isMoved is => ?_⟩, ?_⟩
    · cases started : state.started with
      | true => rfl
      | false =>
          rcases noticed entry isMoved is with rfl | other
          · exact (unwon rfl started).elim
          · exact absurd (started.symm.trans other) nofun
    · rw [pick.after]
      exact .refl _ _

/-- To take a lane further is to let it, and maybe the winner, take turns. -/
theorem runLane_turns {entries : List Lane} {runWinner : Runner} {winner : Flow Bool}
    {next : Option Bool → Flow α} (distinct : (entries.map Lane.place).Nodup)
    (lead : ∀ world, Adequate winner world (runWinner world)) {lane : Lane} {state : Race}
    (member : lane ∈ entries) (unmoved : ∀ entry ∈ state.moved, entry.1 ≠ lane.place)
    (tracks : Tracks winner state) (adequate : Adequate lane.flow state.world (lane.run state.world)) :
    Advances entries winner next state (runLanes runWinner [lane] state) ∧
      (Moves lane.flow state.world.ledger (lane.run state.world).1 (lane.run state.world).2.ledger →
        Moves (.race (lanesNow state.moved entries) state.started state.winner next) state.world.ledger
          (.race (lanesNow (runLanes runWinner [lane] state).moved entries)
            (runLanes runWinner [lane] state).started (runLanes runWinner [lane] state).winner next)
          (runLanes runWinner [lane] state).world.ledger) := by
  obtain ⟨ahead, behind, pick⟩ := picks distinct member unmoved
  obtain ⟨tracked, onward⟩ := runLane_after lead pick tracks
  refine ⟨⟨?_, tracked⟩, fun moves => ?_⟩
  · rw [pick.before]
    exact adequate.runs.turns.asLane.trans onward
  · rw [pick.before]
    exact (moves.asLane).trans onward

/-- To take lanes further is to let them, and maybe the winner, take turns. -/
theorem runLanes_turns {entries : List Lane} {runWinner : Runner} {winner : Flow Bool}
    {next : Option Bool → Flow α} (distinct : (entries.map Lane.place).Nodup)
    (lanes : ∀ lane ∈ entries, ∀ world, Adequate lane.flow world (lane.run world))
    (lead : ∀ world, Adequate winner world (runWinner world)) :
    ∀ (todo : List Lane) (state : Race), (∀ lane ∈ todo, lane ∈ entries) →
      (state.moved.map Prod.fst ++ todo.map Lane.place).Nodup → Tracks winner state →
      Advances entries winner next state (runLanes runWinner todo state) := by
  intro todo
  induction todo with
  | nil => exact fun state _ _ tracks => ⟨.refl _ _, tracks⟩
  | cons lane rest ih =>
      intro state within apart tracks
      have member := within lane List.mem_cons_self
      have unmoved : ∀ entry ∈ state.moved, entry.1 ≠ lane.place := fun entry isMoved =>
        (List.nodup_append.mp apart).2.2 entry.1 (List.mem_map_of_mem isMoved) lane.place (by simp)
      obtain ⟨first, -⟩ : Advances entries winner next state _ ∧ _ :=
        runLane_turns distinct lead member unmoved tracks (lanes lane member state.world)
      have others := ih (runLanes runWinner [lane] state)
        (fun other inRest => within other (List.mem_cons_of_mem lane inRest)) ?_ first.tracks
      · rw [runLanes_cons]
        exact ⟨first.turns.trans others.turns, others.tracks⟩
      · rw [places_runLanes]
        simpa using apart

theorem insertLane_perm (order : Nat) (lane : Lane) : ∀ sorted : List (Nat × Lane),
    (insertLane order lane sorted).Perm ((order, lane) :: sorted) := by
  intro sorted
  induction sorted with
  | nil => exact .refl _
  | cons entry rest ih =>
      unfold insertLane
      split
      · exact .refl _
      · exact (ih.cons entry).trans (.swap _ _ _)

/-- A lane gets its place among others, if it can be taken further. -/
def sortIn (world : World) (sorted : List (Nat × Lane)) (lane : Lane) : List (Nat × Lane) :=
  match lane.flow.readyAt world with
  | some order => insertLane order lane sorted
  | none => sorted

theorem readyLanes_eq (world : World) (lanes : List Lane) :
    readyLanes world lanes = (lanes.foldl (sortIn world) []).map Prod.snd := rfl

theorem readyLanes_perm (world : World) (lanes : List Lane) :
    (readyLanes world lanes).Perm (lanes.filter fun lane => (lane.flow.readyAt world).isSome) := by
  have folded : ∀ (lanes : List Lane) (sorted : List (Nat × Lane)),
      ((lanes.foldl (sortIn world) sorted).map Prod.snd).Perm
        (sorted.map Prod.snd ++ lanes.filter fun lane => (lane.flow.readyAt world).isSome) := by
    intro lanes
    induction lanes with
    | nil => simp
    | cons lane rest ih =>
        intro sorted
        rw [List.foldl_cons, sortIn]
        cases ready : lane.flow.readyAt world with
        | none =>
            rw [List.filter_cons_of_neg (by simp [ready])]
            exact ih sorted
        | some order =>
            rw [List.filter_cons_of_pos (by simp [ready])]
            refine (ih _).trans ?_
            refine (((insertLane_perm order lane sorted).map Prod.snd).append_right _).trans ?_
            exact List.perm_middle.symm
  rw [readyLanes_eq]
  exact folded lanes []

theorem places_lanesFrom : ∀ (lanes : List (Flow Bool)) (place : Nat),
    ((lanesFrom place lanes).map Lane.place).Nodup ∧
      (∀ lane ∈ lanesFrom place lanes, place ≤ lane.place) ∧
      (lanesFrom place lanes).map Lane.flow = lanes := by
  intro lanes
  induction lanes with
  | nil => simp [lanesFrom]
  | cons flow rest ih =>
      intro place
      obtain ⟨distinct, above, flows⟩ := ih (place + 1)
      simp only [lanesFrom, List.map_cons, List.nodup_cons, flows]
      refine ⟨⟨fun again => ?_, distinct⟩, fun lane member => ?_, trivial⟩
      · obtain ⟨lane, member, same⟩ := List.mem_map.mp again
        have := above lane member
        omega
      · rcases List.mem_cons.mp member with rfl | member
        · exact Nat.le_refl place
        · exact Nat.le_of_succ_le (above lane member)

theorem lanesReadyAt_eq_none {world : World} : ∀ {lanes : List (Flow Bool)},
    lanesReadyAt world lanes = none ↔ ∀ lane ∈ lanes, lane.readyAt world = none := by
  intro lanes
  induction lanes with
  | nil => simp [lanesReadyAt]
  | cons lane rest ih => simp [lanesReadyAt, earlier_eq_none, ih]

theorem readyAt_started (world : World) (lanes : List (Flow Bool)) (winner : Flow Bool)
    (next : Option Bool → Flow α) : (Flow.race lanes true winner next).readyAt world =
      if winner.value?.isSome && !lanes.isEmpty then lanesReadyAt world lanes
      else earlier (winner.readyAt world) (lanesReadyAt world lanes) := by
  rw [readyAt]

theorem lanesNow_nil (lanes : List Lane) : lanesNow [] lanes = lanes.map Lane.flow := rfl

theorem readyAt_done (world : World) (value : α) : (Flow.done value).readyAt world = some 0 := rfl

/-- A flow that is not done but can go on takes turns. -/
theorem Adequate.moves {flow : Flow α} {world : World} {result : Flow α × World}
    (adequate : Adequate flow world result) (pending : flow.value? = none)
    (ready : (flow.readyAt world).isSome = true) : Moves flow world.ledger result.1 result.2.ledger := by
  rcases adequate.runs with moves | ⟨-, done | waits⟩
  · exact moves
  · rw [pending] at done
    cases done
  · rw [waits] at ready
    cases ready

theorem Adequate.ofDone {value : α} {world : World} {result : Flow α × World}
    (adequate : Adequate (.done value) world result) : result = (.done value, world) := by
  rcases adequate.runs with ⟨_, _, turn, -⟩ | ⟨same, -⟩
  · cases turn with
    | start goesOn _ => cases goesOn
  · exact same

/-- When lanes that can go on were taken further, those that are done have been noticed. -/
theorem noticed_of_ready {entries : List Lane} {world : World} {runWinner : Runner} {winner : Flow Bool}
    {state : Race} (empty : state.moved = [])
    (tracks : Tracks winner (runLanes runWinner (readyLanes world entries) state))
    (won : .done true ∈ lanesNow (runLanes runWinner (readyLanes world entries) state).moved entries) :
    (runLanes runWinner (readyLanes world entries) state).started = true := by
  obtain ⟨lane, member, is⟩ := List.mem_map.mp won
  split at is
  next entry flow found =>
    exact tracks.noticed _ (List.mem_of_find?_eq_some found) is
  next unmoved =>
    have ready : lane ∈ readyLanes world entries := by
      refine (readyLanes_perm world entries).mem_iff.mpr (List.mem_filter.mpr ⟨member, ?_⟩)
      rw [is, readyAt_done]
      rfl
    have place : lane.place ∈ (runLanes runWinner (readyLanes world entries) state).moved.map Prod.fst := by
      rw [places_runLanes, empty]
      exact List.mem_map_of_mem ready
    obtain ⟨entry, isMoved, same⟩ := List.mem_map.mp place
    exact absurd (List.find?_eq_none.mp unmoved entry isMoved) (by simp [same])

theorem prefix_runLanes (runWinner : Runner) : ∀ (todo : List Lane) (state : Race),
    state.moved <+: (runLanes runWinner todo state).moved := by
  intro todo
  induction todo with
  | nil => exact fun state => List.prefix_rfl
  | cons lane rest ih =>
      intro state
      unfold runLanes
      obtain ⟨flow, world⟩ := lane.run state.world
      simp only
      split
      · obtain ⟨winner, later⟩ := runWinner world
        exact (List.prefix_append state.moved _).trans
          (ih ⟨state.moved ++ [(lane.place, flow)], true, winner, later⟩)
      · exact (List.prefix_append state.moved _).trans
          (ih ⟨state.moved ++ [(lane.place, flow)], state.started, state.winner, world⟩)

/-- A lane that is done is still done after it was taken further. -/
theorem done_runLanes {entries : List Lane} (runWinner : Runner) {lane : Lane} (rest : List Lane)
    {state : Race} {value : Bool} (member : lane ∈ entries) (empty : state.moved = [])
    (stays : lane.run state.world = (.done value, state.world)) :
    .done value ∈ lanesNow (runLanes runWinner (lane :: rest) state).moved entries := by
  have moved : (runLanes runWinner [lane] state).moved = [(lane.place, .done value)] := by
    unfold runLanes
    rw [stays, empty]
    simp only [runLanes, List.nil_append]
    split <;> rfl
  obtain ⟨later, whole⟩ := prefix_runLanes runWinner rest (runLanes runWinner [lane] state)
  rw [← runLanes_cons, moved] at whole
  refine List.mem_map.mpr ⟨lane, member, ?_⟩
  rw [← whole]
  simp

/-- The lanes of a race that can go on are taken further, and those that are done leave. -/
theorem race_further {lanes : List (Flow Bool)} {runWinner : Runner} {winner : Flow Bool}
    (next : Option Bool → Flow α)
    (adequate : ∀ lane ∈ lanesFrom 0 lanes, ∀ world, Adequate lane.flow world (lane.run world))
    (lead : ∀ world, Adequate winner world (runWinner world)) (state : Race) (empty : state.moved = [])
    (unstarted : state.started = false → state.winner = winner) {after : Race}
    (runs : after = runLanes runWinner (readyLanes state.world (lanesFrom 0 lanes)) state) :
    Moves (.race lanes state.started state.winner next) state.world.ledger
        (.race (remaining after.moved (lanesFrom 0 lanes)) after.started after.winner next)
        after.world.ledger ∨
      after = state ∧ remaining after.moved (lanesFrom 0 lanes) = lanes ∧
        lanesReadyAt state.world lanes = none := by
  obtain ⟨distinct, -, flows⟩ := places_lanesFrom lanes 0
  have tracks : Tracks winner state := ⟨unstarted, by simp [empty]⟩
  have atFirst : lanesNow state.moved (lanesFrom 0 lanes) = lanes := by
    rw [empty, lanesNow_nil, flows]
  have perm := readyLanes_perm state.world (lanesFrom 0 lanes)
  cases ready : readyLanes state.world (lanesFrom 0 lanes) with
  | nil =>
      rw [ready] at runs perm
      have waits : ∀ lane ∈ lanes, lane.readyAt state.world = none := by
        intro lane member
        rw [← flows] at member
        obtain ⟨entry, isEntry, rfl⟩ := List.mem_map.mp member
        have missing := List.filter_eq_nil_iff.mp perm.symm.eq_nil entry isEntry
        simpa using missing
      obtain rfl : after = state := runs
      refine .inr ⟨rfl, ?_, lanesReadyAt_eq_none.mpr waits⟩
      rw [remaining_eq, atFirst, List.filter_eq_self]
      intro lane member
      cases value : lane.value? with
      | none => rfl
      | some value =>
          obtain rfl := value?_eq_some.mp value
          cases waits _ member
  | cons lane rest =>
      left
      have within : ∀ other ∈ lane :: rest,
          other ∈ lanesFrom 0 lanes ∧ (other.flow.readyAt state.world).isSome = true := fun other member =>
        List.mem_filter.mp (perm.mem_iff.mp (ready ▸ member))
      obtain ⟨member, canGoOn⟩ := within lane List.mem_cons_self
      have apart : (state.moved.map Prod.fst ++ (lane :: rest).map Lane.place).Nodup := by
        rw [empty, ← ready]
        exact (perm.map Lane.place).nodup_iff.mpr (distinct.sublist (List.filter_sublist.map _))
      have whole : Advances (lanesFrom 0 lanes) winner next state after := by
        rw [runs, ready]
        exact runLanes_turns distinct adequate lead _ state (fun other isIn => (within other isIn).1)
          apart tracks
      have noticed : .done true ∈ lanesNow after.moved (lanesFrom 0 lanes) → after.started = true := by
        rw [runs]
        exact noticed_of_ready empty (runs ▸ whole.tracks)
      have turns := whole.turns
      rw [atFirst] at turns
      rw [remaining_eq]
      cases value : lane.flow.value? with
      | some value' =>
          have stays : lane.run state.world = (.done value', state.world) := by
            have result := adequate lane member state.world
            rw [value?_eq_some.mp value] at result
            exact result.ofDone
          have isDone := done_runLanes runWinner rest member empty stays
          rw [← ready, ← runs] at isDone
          exact turns.andMoves (leave_moves _ isDone noticed)
      | none =>
          have moves := (adequate lane member state.world).moves value canGoOn
          have unmoved : ∀ entry ∈ state.moved, entry.1 ≠ lane.place := by simp [empty]
          obtain ⟨first, further⟩ : Advances (lanesFrom 0 lanes) winner next state _ ∧ _ :=
            runLane_turns distinct lead member unmoved tracks (adequate lane member state.world)
          have others : Advances (lanesFrom 0 lanes) winner next (runLanes runWinner [lane] state) after := by
            rw [runs, ready, runLanes_cons runWinner lane rest]
            refine runLanes_turns distinct adequate lead rest _ ?_ ?_ first.tracks
            · exact fun other isIn => (within other (List.mem_cons_of_mem lane isIn)).1
            · rw [places_runLanes]
              simpa using apart
          have begins := further moves
          rw [atFirst] at begins
          exact (begins.trans others.turns).trans (leave_done _ [] _ noticed)

/-- What a race is when it was taken further: it is over, or it goes on with the lanes that are left. -/
theorem race_onward {next : Option Bool → Flow α}
    (onward : ∀ value world, Adequate (next value) world (run (next value) world))
    (left : List (Flow Bool)) (started : Bool) (winner : Flow Bool) (world : World)
    {result : Flow α × World} (results : result = match left, started, winner.value? with
      | [], false, _ => run (next none) world
      | [], true, some value => run (next (some value)) world
      | left, started, _ => (.race left started winner next, world)) :
    Moves (.race left started winner next) world.ledger result.1 result.2.ledger ∨
      result = (.race left started winner next, world) ∧
        (left ≠ [] ∨ started = true ∧ winner.value? = none) := by
  subst results
  cases left with
  | cons lane rest => exact .inr ⟨rfl, .inl nofun⟩
  | nil =>
      cases started with
      | false => exact .inl ((onward none world).goes.moves fun burst => .lost burst)
      | true =>
          cases value : winner.value? with
          | none => exact .inr ⟨rfl, .inr ⟨rfl, rfl⟩⟩
          | some value =>
              obtain rfl := value?_eq_some.mp value
              exact .inl ((onward (some _) world).goes.moves fun burst => .decided burst)

theorem race_leads (lanes : List (Flow Bool)) {started : Bool} {winner : Flow Bool}
    (next : Option Bool → Flow α) {world : World}
    (lead : ∀ world, Adequate winner world (run winner world)) {leader : Flow Bool × World}
    (runs : leader = if started then run winner world else (winner, world)) :
    (Moves (.race lanes started winner next) world.ledger (.race lanes started leader.1 next)
        leader.2.ledger ∨ leader = (winner, world) ∧ (started = true → Rests world winner)) ∧
      (started = false → leader.1 = winner) := by
  subst runs
  cases started with
  | false => exact ⟨.inr ⟨rfl, nofun⟩, fun _ => rfl⟩
  | true =>
      refine ⟨?_, nofun⟩
      rcases (lead world).runs with moves | ⟨stays, rests⟩
      · exact .inl (moves.lift fun turn => .winner turn)
      · exact .inr ⟨stays, fun _ => rests⟩

/-- A race in which nothing can go on, and that is not over, rests. -/
theorem race_rests {lanes : List (Flow Bool)} {started : Bool} {winner : Flow Bool}
    {next : Option Bool → Flow α} {world : World} (leader : started = true → Rests world winner)
    (waits : lanesReadyAt world lanes = none)
    (goesOn : lanes ≠ [] ∨ started = true ∧ winner.value? = none) :
    Rests world (.race lanes started winner next) := by
  right
  cases started with
  | false =>
      obtain ⟨lane, rest, rfl⟩ := List.exists_cons_of_ne_nil (goesOn.resolve_right nofun)
      simpa only [readyAt] using waits
  | true =>
      rw [readyAt_started]
      split
      · exact waits
      next undecided =>
        refine earlier_eq_none.mpr ⟨?_, waits⟩
        rcases leader rfl with done | rests
        · rcases goesOn with remain | ⟨-, unfinished⟩
          · simp [done, remain] at undecided
          · rw [unfinished] at done
            cases done
        · exact rests

theorem race_runs {lanes : List (Flow Bool)} {started : Bool} {winner : Flow Bool}
    {next : Option Bool → Flow α} {world : World}
    (adequate : ∀ lane ∈ lanesFrom 0 lanes, ∀ world, Adequate lane.flow world (lane.run world))
    (lead : ∀ world, Adequate winner world (run winner world))
    (onward : ∀ value world, Adequate (next value) world (run (next value) world)) :
    Runs (.race lanes started winner next) world (run (.race lanes started winner next) world) := by
  obtain ⟨leader, isLeader⟩ : ∃ leader, leader = if started then run winner world else (winner, world) :=
    ⟨_, rfl⟩
  obtain ⟨leads, unstarted⟩ := race_leads lanes next lead isLeader
  obtain ⟨after, isAfter⟩ : ∃ after, after = runLanes (run winner)
    (readyLanes leader.2 (lanesFrom 0 lanes)) ⟨[], started, leader.1, leader.2⟩ := ⟨_, rfl⟩
  have further := race_further next adequate lead ⟨[], started, leader.1, leader.2⟩ rfl unstarted isAfter
  have results : run (.race lanes started winner next) world =
      match remaining after.moved (lanesFrom 0 lanes), after.started, after.winner.value? with
      | [], false, _ => run (next none) after.world
      | [], true, some value => run (next (some value)) after.world
      | left, started, _ => (.race left started after.winner next, after.world) := by
    rw [run, ← isLeader, isAfter] <;> rfl
  have ends := race_onward onward _ after.started after.winner after.world results
  have final : Turns (.race (remaining after.moved (lanesFrom 0 lanes)) after.started after.winner next)
      after.world.ledger (run (.race lanes started winner next) world).1
      (run (.race lanes started winner next) world).2.ledger := by
    rcases ends with moves | ⟨stays, -⟩
    · exact moves.turns
    · rw [stays]
      exact .refl _ _
  rcases leads with moves | ⟨rfl, rests⟩
  · rcases further with more | ⟨same, remain, -⟩
    · exact .inl ((moves.trans more.turns).trans final)
    · rw [remain, same] at final
      exact .inl (moves.trans final)
  · rcases further with more | ⟨same, remain, waits⟩
    · exact .inl (more.trans final)
    · rw [remain, same] at ends
      rcases ends with moves | ⟨stays, goesOn⟩
      · exact .inl moves
      · exact .inr ⟨stays, race_rests rests waits goesOn⟩

theorem ask_adequate {request : Request β} {next : β → Flow α} {world : World}
    (onward : ∀ reply world, Adequate (next reply) world (run (next reply) world)) :
    Adequate (.ask request next) world (run (.ask request next) world) := by
  have replied := world.answer_mayReply request
  rw [run]
  generalize world.answer request = result at replied
  obtain ⟨reply, after⟩ := result
  have later := onward reply after
  cases goesOn : request.givesWay with
  | false =>
      obtain ⟨between, middle, burst, rest⟩ := later.goes
      exact Goes.adequate ⟨between, middle, .ask goesOn replied burst, rest⟩ goesOn
  | true =>
      cases request with
      | page call =>
          have goes := later.goes
          rw [show after.ledger = world.ledger from replied] at goes
          exact Runs.adequate (.inl (goes.moves fun burst => .page reply burst)) goesOn
      | _ => cases goesOn

theorem sleep_adequate {time : Nat} {next : Flow α} {world : World}
    (onward : Adequate next world (run next world)) :
    Adequate (.sleep time next) world (run (.sleep time next) world) := by
  refine Runs.adequate (.inl ?_) rfl
  rw [run]
  split
  · exact onward.goes.moves fun burst => .skip time burst
  · exact ⟨_, _, .lieDown world.ledger time (world.clock + time) world.order, .refl _ _⟩

theorem asleep_adequate {due order : Nat} {next : Flow α} {world : World}
    (onward : Adequate next world (run next world)) :
    Adequate (.asleep due order next) world (run (.asleep due order next) world) := by
  refine Runs.adequate ?_ rfl
  rw [run]
  split
  next => exact .inl (onward.goes.moves fun burst => .wake due order burst)
  next early => exact .inr ⟨rfl, .inr (by rw [readyAt, if_neg early])⟩

theorem await_adequate {id : String} {next : Option Json → Flow α} {world : World}
    (onward : ∀ reply world, Adequate (next reply) world (run (next reply) world)) :
    Adequate (.await id next) world (run (.await id next) world) := by
  refine Runs.adequate ?_ rfl
  rw [run]
  split
  next value _ _ =>
    exact .inl ((onward (some value) (world.forget [id])).goes.moves fun burst => .answered _ burst)
  next unanswered =>
    split
    next stillOpen => exact .inr ⟨rfl, .inr (by simp only [readyAt, unanswered, stillOpen, if_true])⟩
    next => exact .inl ((onward none world).goes.moves fun burst => .answered none burst)

/-- Where a flow rests that is not done, nothing has come about that it waits for. -/
theorem Rests.readyAt {flow : Flow α} {world : World} (rests : Rests world flow)
    (pending : flow.value?.isSome = false) : flow.readyAt world = none := by
  rcases rests with done | waits
  · exact absurd (done.symm.trans pending) nofun
  · exact waits

theorem both_runs {left : Flow β} {right : Flow γ} {next : β → γ → Flow α} {world : World}
    (one : ∀ world, Adequate left world (run left world))
    (two : ∀ world, Adequate right world (run right world))
    (onward : ∀ a b world, Adequate (next a b) world (run (next a b) world)) :
    Runs (.both left right next) world (run (.both left right next) world) := by
  have first := (one world).runs
  rw [run]
  generalize run left world = result at first
  obtain ⟨left', early⟩ := result
  have second := (two early).runs
  simp only
  generalize run right early = result at second
  obtain ⟨right', late⟩ := result
  have turns : Turns (.both left right next) world.ledger (.both left' right' next) late.ledger :=
    (first.turns.lift fun turn => .left turn).trans (second.turns.lift fun turn => .right turn)
  simp only
  split
  next a b isLeft isRight =>
    obtain rfl := value?_eq_some.mp isLeft
    obtain rfl := value?_eq_some.mp isRight
    exact .inl (turns.andMoves ((onward a b late).goes.moves fun burst => .join burst))
  next undecided =>
    rcases first with moves | ⟨same, restsLeft⟩
    · exact .inl ((moves.lift fun turn => .left turn).trans (second.turns.lift fun turn => .right turn))
    obtain ⟨rfl, rfl⟩ := Prod.mk.inj same
    rcases second with moves | ⟨same, restsRight⟩
    · exact .inl (moves.lift fun turn => .right turn)
    obtain ⟨rfl, rfl⟩ := Prod.mk.inj same
    refine .inr ⟨rfl, .inr ?_⟩
    simp only [readyAt]
    split
    next isLeft isRight =>
      obtain ⟨a, isLeft⟩ := Option.isSome_iff_exists.mp isLeft
      obtain ⟨b, isRight⟩ := Option.isSome_iff_exists.mp isRight
      exact (undecided a b isLeft isRight).elim
    next _ isRight => exact restsRight.readyAt isRight
    next isLeft _ => exact restsLeft.readyAt isLeft
    next isLeft isRight => exact earlier_eq_none.mpr ⟨restsLeft.readyAt isLeft, restsRight.readyAt isRight⟩

theorem first_runs {left right : Flow β} {next : β → Flow α} {world : World}
    (one : ∀ world, Adequate left world (run left world))
    (two : ∀ world, Adequate right world (run right world))
    (onward : ∀ a world, Adequate (next a) world (run (next a) world)) :
    Runs (.first left right next) world (run (.first left right next) world) := by
  have first := (one world).runs
  rw [run]
  generalize run left world = result at first
  obtain ⟨left', early⟩ := result
  have turns : Turns (.first left right next) world.ledger (.first left' right next) early.ledger :=
    first.turns.lift fun turn => .either turn
  simp only
  split
  next a isLeft =>
    obtain rfl := value?_eq_some.mp isLeft
    exact .inl (turns.andMoves
      ((onward a (early.forget right.awaited)).goes.moves fun burst => .leftFirst burst))
  next pendingLeft =>
    have second := (two early).runs
    generalize run right early = result at second
    obtain ⟨right', late⟩ := result
    have further : Turns (.first left' right next) early.ledger (.first left' right' next) late.ledger :=
      second.turns.lift fun turn => .other turn
    simp only
    split
    next b isRight =>
      obtain rfl := value?_eq_some.mp isRight
      exact .inl ((turns.trans further).andMoves
        ((onward b (late.forget left'.awaited)).goes.moves fun burst => .rightFirst burst))
    next pendingRight =>
      rcases first with moves | ⟨same, restsLeft⟩
      · exact .inl ((moves.lift fun turn => .either turn).trans further)
      obtain ⟨rfl, rfl⟩ := Prod.mk.inj same
      rcases second with moves | ⟨same, restsRight⟩
      · exact .inl (moves.lift fun turn => .other turn)
      obtain ⟨rfl, rfl⟩ := Prod.mk.inj same
      refine .inr ⟨rfl, .inr ?_⟩
      simp only [readyAt]
      exact earlier_eq_none.mpr
        ⟨restsLeft.readyAt (by rw [pendingLeft]; rfl), restsRight.readyAt (by rw [pendingRight]; rfl)⟩

mutual

/-- To run a flow is to let it take turns, and it is left as it is only where it can not go on. -/
theorem run_adequate : ∀ {α : Type} (flow : Flow α) (world : World), Adequate flow world (run flow world)
  | _, .done _, _ => Runs.adequate (.inr ⟨rfl, .inl rfl⟩) rfl
  | _, .ask _ next, _ => ask_adequate fun reply => run_adequate (next reply)
  | _, .sleep _ next, world => sleep_adequate (run_adequate next world)
  | _, .asleep _ _ next, world => asleep_adequate (run_adequate next world)
  | _, .await _ next, _ => await_adequate fun reply => run_adequate (next reply)
  | _, .both left right next, _ =>
      (both_runs (run_adequate left) (run_adequate right) fun a b => run_adequate (next a b)).adequate rfl
  | _, .first left right next, _ =>
      (first_runs (run_adequate left) (run_adequate right) fun a => run_adequate (next a)).adequate rfl
  | _, .race lanes _ winner next, _ =>
      (race_runs (lanes_adequate lanes 0) (run_adequate winner) fun value =>
        run_adequate (next value)).adequate rfl

theorem lanes_adequate : ∀ (lanes : List (Flow Bool)) (place : Nat),
    ∀ lane ∈ lanesFrom place lanes, ∀ world, Adequate lane.flow world (lane.run world)
  | [], _ => nofun
  | lane :: rest, place => by
      unfold lanesFrom
      intro entry member
      rcases List.mem_cons.mp member with rfl | member
      · exact run_adequate lane
      · exact lanes_adequate rest (place + 1) entry member

end

end ConsentBanner.Flow

import ConsentBanner.Proofs.Flow.Adequacy
import ConsentBanner.Proofs.Flow.Stage

/-!
# Runs on a stage

To run a flow in a world is to take steps whose story the stage of that world follows, where nothing else happens
meanwhile: the page gives the replies that are told (`Flow.run_enacts`).
-/

set_option autoImplicit false

namespace ConsentBanner

theorem World.stage_answer (world : World) {β : Type} (request : Request β) :
    world.stage.MayReply request (world.answer request).1 (world.answer request).2.stage := by
  have ledger := world.answer_mayReply request
  cases request with
  | page call => exact ⟨rfl, rfl⟩
  | _ => exact ⟨ledger, rfl⟩

namespace Flow

variable {α β γ : Type}

theorem Step.single {flow after : Flow α} {told : List Exchange} (step : Step flow told after) :
    told = [] ∨ ∃ exchange, told = [exchange] := by
  induction step with
  | ask request next reply => exact .inr ⟨_, rfl⟩
  | left _ ih => exact ih
  | right _ ih => exact ih
  | either _ ih => exact ih
  | other _ ih => exact ih
  | lane _ ih => exact ih
  | winner _ ih => exact ih
  | _ => exact .inl rfl

def Enacts (flow : Flow α) (before : Stage) (after : Flow α) (later : Stage) : Prop :=
  ∃ story, Steps flow story after ∧ before.Follows Eq story later

def IsEnacted (flow : Flow α) (run : World → Flow α × World) : Prop :=
  ∀ world, Enacts flow world.stage (run world).1 (run world).2.stage

namespace Enacts

variable {flow between after : Flow α} {before middle later : Stage}

theorem refl (flow : Flow α) (stage : Stage) : Enacts flow stage flow stage := ⟨[], .refl flow, rfl⟩

theorem trans (one : Enacts flow before between middle) (two : Enacts between middle after later) :
    Enacts flow before after later := by
  obtain ⟨first, steps, follows⟩ := one
  obtain ⟨second, others, onward⟩ := two
  exact ⟨first ++ second, steps.trans others, follows.append onward⟩

theorem lift {frame : Flow α → Flow β}
    (frames : ∀ {flow after : Flow α} {told : List Exchange}, Step flow told after →
      Step (frame flow) told (frame after))
    (enacts : Enacts flow before after later) : Enacts (frame flow) before (frame after) later := by
  obtain ⟨story, steps, follows⟩ := enacts
  exact ⟨story, steps.lift frames, follows⟩

theorem head (step : Step flow [] between) (enacts : Enacts between before after later) :
    Enacts flow before after later := by
  obtain ⟨story, steps, follows⟩ := enacts
  exact ⟨story, .head step steps, follows⟩

theorem reply {request : Request β} {next : β → Flow α} {value : β}
    (replied : before.MayReply request value middle) (enacts : Enacts (next value) middle after later) :
    Enacts (.ask request next) before after later := by
  obtain ⟨story, steps, follows⟩ := enacts
  exact ⟨_, .head (.ask request next value) steps, before, middle, rfl, replied, follows⟩

end Enacts

/-! ## Races -/

theorem leave_enacts {started : Bool} {winner : Flow Bool} {next : Option Bool → Flow α} (stage : Stage) :
    ∀ ahead lanes : List (Flow Bool), (.done true ∈ lanes → started = true) →
      Enacts (.race (ahead ++ lanes) started winner next) stage
        (.race (ahead ++ lanes.filter fun flow => flow.value?.isNone) started winner next) stage := by
  intro ahead lanes
  induction lanes generalizing ahead with
  | nil => exact fun _ => .refl _ _
  | cons lane rest ih =>
      intro noticed
      have later := fun member => noticed (List.mem_cons_of_mem lane member)
      cases value : lane.value? with
      | some value' =>
          obtain rfl := value?_eq_some.mp value
          rw [List.filter_cons_of_neg (by simp [value])]
          refine .head (.leave ?_) (ih ahead later)
          rintro rfl
          exact noticed List.mem_cons_self
      | none =>
          rw [List.filter_cons_of_pos (by simp [value])]
          have onward := ih (ahead ++ [lane]) later
          rw [List.append_assoc, List.append_assoc] at onward
          exact onward

section Lanes

variable {entries : List Lane} {winner : Flow Bool} (next : Option Bool → Flow α)

def raceNow (entries : List Lane) (next : Option Bool → Flow α) (state : Race) : Flow α :=
  .race (lanesNow state.moved entries) state.started state.winner next

theorem runLane_enacts (distinct : (entries.map Lane.place).Nodup) (lead : IsEnacted winner (run winner))
    {lane : Lane} {state : Race} (member : lane ∈ entries) (unmoved : ∀ entry ∈ state.moved, entry.1 ≠ lane.place)
    (tracks : Tracks winner state) (own : IsEnacted lane.flow lane.run) :
    Tracks winner (runLanes (run winner) [lane] state) ∧
      Enacts (raceNow entries next state) state.world.stage
        (raceNow entries next (runLanes (run winner) [lane] state))
        (runLanes (run winner) [lane] state).world.stage := by
  obtain ⟨ahead, behind, pick⟩ := picks distinct member unmoved
  have tracked := (@runLane_after _ _ _ _ next (run_adequate winner) _ _ _ _ pick tracks).1
  refine ⟨tracked, ?_⟩
  have moves : Enacts (raceNow entries next state) state.world.stage
      (.race (ahead ++ (lane.run state.world).1 :: behind) state.started state.winner next)
      (lane.run state.world).2.stage := by
    rw [raceNow, pick.before]
    exact (own state.world).lift fun step => .lane step
  refine moves.trans ?_
  -- A lane that comes to true lets the winner start before the next lane is taken further.
  unfold runLanes raceNow
  generalize lane.run state.world = result
  obtain ⟨flow, world⟩ := result
  simp only
  split
  next value unstarted =>
    obtain rfl := value?_eq_some.mp value
    have led := lead world
    generalize run winner world = result at led ⊢
    obtain ⟨leader, later⟩ := result
    simp only [runLanes]
    rw [unstarted, tracks.unstarted unstarted, pick.after]
    exact .head (.win (by simp)) (led.lift fun step => .winner step)
  next unwon =>
    simp only [runLanes]
    rw [pick.after]
    exact .refl _ _

theorem runLanes_enacts (distinct : (entries.map Lane.place).Nodup) (lead : IsEnacted winner (run winner))
    (lanes : ∀ lane ∈ entries, IsEnacted lane.flow lane.run) :
    ∀ (todo : List Lane) (state : Race), (∀ lane ∈ todo, lane ∈ entries) →
      (state.moved.map Prod.fst ++ todo.map Lane.place).Nodup → Tracks winner state →
      Tracks winner (runLanes (run winner) todo state) ∧
        Enacts (raceNow entries next state) state.world.stage
          (raceNow entries next (runLanes (run winner) todo state))
          (runLanes (run winner) todo state).world.stage := by
  intro todo
  induction todo with
  | nil => exact fun state _ _ tracks => ⟨tracks, .refl _ _⟩
  | cons lane rest ih =>
      intro state within apart tracks
      have member := within lane List.mem_cons_self
      have unmoved : ∀ entry ∈ state.moved, entry.1 ≠ lane.place := fun entry isMoved =>
        (List.nodup_append.mp apart).2.2 entry.1 (List.mem_map_of_mem isMoved) lane.place (by simp)
      obtain ⟨tracked, first⟩ : _ ∧ Enacts (raceNow entries next state) _ _ _ :=
        runLane_enacts next distinct lead member unmoved tracks (lanes lane member)
      obtain ⟨noticed, others⟩ := ih (runLanes (run winner) [lane] state)
        (fun other inRest => within other (List.mem_cons_of_mem lane inRest)) (by
          rw [places_runLanes]
          simpa using apart) tracked
      rw [runLanes_cons]
      exact ⟨noticed, first.trans others⟩

/-- The lanes of a race that can go on are taken further, and those that are done leave. -/
theorem further_enacts {lanes : List (Flow Bool)} (lead : IsEnacted winner (run winner))
    (each : ∀ lane ∈ lanesFrom 0 lanes, IsEnacted lane.flow lane.run) (state : Race) (empty : state.moved = [])
    (unstarted : state.started = false → state.winner = winner) {after : Race}
    (runs : after = runLanes (run winner) (readyLanes state.world (lanesFrom 0 lanes)) state) :
    Enacts (.race lanes state.started state.winner next) state.world.stage
      (.race (remaining after.moved (lanesFrom 0 lanes)) after.started after.winner next) after.world.stage := by
  obtain ⟨distinct, -, flows⟩ := places_lanesFrom lanes 0
  have perm := readyLanes_perm state.world (lanesFrom 0 lanes)
  have atFirst : raceNow (lanesFrom 0 lanes) next state = .race lanes state.started state.winner next := by
    rw [raceNow, empty, lanesNow_nil, flows]
  have apart : (state.moved.map Prod.fst ++ (readyLanes state.world (lanesFrom 0 lanes)).map Lane.place).Nodup := by
    rw [empty]
    exact (perm.map Lane.place).nodup_iff.mpr (distinct.sublist (List.filter_sublist.map _))
  obtain ⟨tracks, enacts⟩ := runLanes_enacts next distinct lead each _ state
    (fun lane member => (List.mem_filter.mp (perm.mem_iff.mp member)).1) apart ⟨unstarted, by simp [empty]⟩
  have noticed : .done true ∈ lanesNow after.moved (lanesFrom 0 lanes) → after.started = true := by
    rw [runs]
    exact noticed_of_ready empty tracks
  rw [atFirst, ← runs] at enacts
  exact enacts.trans (leave_enacts after.world.stage [] _ noticed)

end Lanes

/-- What a race is when it was taken further: it is over, or it goes on with the lanes that are left. -/
theorem onward_enacts {next : Option Bool → Flow α} (onward : ∀ value, IsEnacted (next value) (run (next value)))
    (left : List (Flow Bool)) (started : Bool) (winner : Flow Bool) (world : World)
    {result : Flow α × World} (results : result = match left, started, winner.value? with
      | [], false, _ => run (next none) world
      | [], true, some value => run (next (some value)) world
      | left, started, _ => (.race left started winner next, world)) :
    Enacts (.race left started winner next) world.stage result.1 result.2.stage := by
  subst results
  cases left with
  | cons lane rest => exact .refl _ _
  | nil =>
      cases started with
      | false => exact .head (.lost winner next) (onward none world)
      | true =>
          cases value : winner.value? with
          | none => exact .refl _ _
          | some acted =>
              obtain rfl := value?_eq_some.mp value
              exact .head (.decided acted next) (onward (some acted) world)

theorem race_enacts {lanes : List (Flow Bool)} {started : Bool} {winner : Flow Bool}
    {next : Option Bool → Flow α} (each : ∀ lane ∈ lanesFrom 0 lanes, IsEnacted lane.flow lane.run)
    (lead : IsEnacted winner (run winner)) (onward : ∀ value, IsEnacted (next value) (run (next value))) :
    IsEnacted (.race lanes started winner next) (run (.race lanes started winner next)) := by
  intro world
  obtain ⟨leader, isLeader⟩ : ∃ leader, leader = if started then run winner world else (winner, world) :=
    ⟨_, rfl⟩
  have leads : Enacts (.race lanes started winner next) world.stage (.race lanes started leader.1 next)
      leader.2.stage ∧ (started = false → leader.1 = winner) := by
    subst isLeader
    cases started with
    | false => exact ⟨.refl _ _, fun _ => rfl⟩
    | true => exact ⟨(lead world).lift fun step => .winner step, fun ended => Bool.noConfusion ended⟩
  obtain ⟨after, isAfter⟩ : ∃ after, after = runLanes (run winner)
    (readyLanes leader.2 (lanesFrom 0 lanes)) ⟨[], started, leader.1, leader.2⟩ := ⟨_, rfl⟩
  have further := further_enacts next lead each ⟨[], started, leader.1, leader.2⟩ rfl leads.2 isAfter
  refine leads.1.trans (further.trans (onward_enacts onward _ after.started after.winner after.world ?_))
  rw [run, ← isLeader, isAfter] <;> rfl

/-! ## All flows -/

theorem both_enacts {left : Flow β} {right : Flow γ} {next : β → γ → Flow α} (one : IsEnacted left (run left))
    (two : IsEnacted right (run right)) (onward : ∀ a b, IsEnacted (next a b) (run (next a b))) :
    IsEnacted (.both left right next) (run (.both left right next)) := by
  intro world
  have first := one world
  rw [run]
  generalize run left world = result at first
  obtain ⟨left', early⟩ := result
  have second := two early
  simp only
  generalize run right early = result at second
  obtain ⟨right', late⟩ := result
  have enacts : Enacts (.both left right next) world.stage (.both left' right' next) late.stage :=
    (first.lift fun step => .left step).trans (second.lift fun step => .right step)
  simp only
  split
  next a b isLeft isRight =>
    obtain rfl := value?_eq_some.mp isLeft
    obtain rfl := value?_eq_some.mp isRight
    exact enacts.trans (.head (.join a b next) (onward a b late))
  next => exact enacts

theorem first_enacts {left right : Flow β} {next : β → Flow α} (one : IsEnacted left (run left))
    (two : IsEnacted right (run right)) (onward : ∀ a, IsEnacted (next a) (run (next a))) :
    IsEnacted (.first left right next) (run (.first left right next)) := by
  intro world
  have first := one world
  rw [run]
  generalize run left world = result at first
  obtain ⟨left', early⟩ := result
  have enacts : Enacts (.first left right next) world.stage (.first left' right next) early.stage :=
    first.lift fun step => .either step
  simp only
  split
  next a isLeft =>
    obtain rfl := value?_eq_some.mp isLeft
    exact enacts.trans (.head (.leftFirst a right next) (onward a (early.forget right.awaited)))
  next =>
    have second := two early
    generalize run right early = result at second
    obtain ⟨right', late⟩ := result
    have further := enacts.trans (second.lift fun step => .other step)
    simp only
    split
    next b isRight =>
      obtain rfl := value?_eq_some.mp isRight
      exact further.trans (.head (.rightFirst left' b next) (onward b (late.forget left'.awaited)))
    next => exact further

mutual

/-- To run a flow is to let it take steps whose story the stage follows. -/
theorem run_enacts : ∀ {α : Type} (flow : Flow α), IsEnacted flow (run flow)
  | _, .done _ => fun world => .refl _ world.stage
  | _, .ask request next => fun world => by
      rw [run]
      exact .reply (world.stage_answer request) (run_enacts (next _) _)
  | _, .sleep time next => fun world => by
      rw [run]
      split
      · exact .head (.skip time next) (run_enacts next world)
      · exact .head (.lieDown time (world.clock + time) world.order next) (.refl _ world.stage)
  | _, .asleep due order next => fun world => by
      rw [run]
      split
      · exact .head (.wake due order next) (run_enacts next world)
      · exact .refl _ world.stage
  | _, .await id next => fun world => by
      rw [run]
      split
      next value _ _ =>
        exact .head (.answered id next (some value)) (run_enacts (next (some value)) (world.forget [id]))
      next =>
        split
        · exact .refl _ world.stage
        · exact .head (.answered id next none) (run_enacts (next none) world)
  | _, .both left right next =>
      both_enacts (run_enacts left) (run_enacts right) fun a b => run_enacts (next a b)
  | _, .first left right next =>
      first_enacts (run_enacts left) (run_enacts right) fun a => run_enacts (next a)
  | _, .race lanes _ winner next =>
      race_enacts (lanes_enact lanes 0) (run_enacts winner) fun value => run_enacts (next value)

theorem lanes_enact : ∀ (lanes : List (Flow Bool)) (place : Nat),
    ∀ lane ∈ lanesFrom place lanes, IsEnacted lane.flow lane.run
  | [], _ => nofun
  | lane :: rest, place => by
      unfold lanesFrom
      intro entry member
      rcases List.mem_cons.mp member with rfl | member
      · exact run_enacts lane
      · exact lanes_enact rest (place + 1) entry member

end

end Flow

end ConsentBanner

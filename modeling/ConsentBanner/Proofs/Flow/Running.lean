import ConsentBanner.Proofs.Flow.Adequacy

/-!
# Running flows

Time stands still while a flow is run, and flows in sequence run in sequence.
-/

set_option autoImplicit false

namespace ConsentBanner

theorem World.answer_clock {β : Type} (world : World) (request : Request β) :
    (world.answer request).2.clock = world.clock := by
  cases request <;> rfl

namespace Flow

variable {α β γ : Type}

theorem runLanes_clock {runWinner : Runner} (lead : ∀ world, (runWinner world).2.clock = world.clock) :
    ∀ (todo : List Lane) (state : Race), (∀ lane ∈ todo, ∀ world, (lane.run world).2.clock = world.clock) →
      (runLanes runWinner todo state).world.clock = state.world.clock := by
  intro todo
  induction todo with
  | nil => exact fun state _ => rfl
  | cons lane rest ih =>
      intro state each
      have later := fun other member => each other (List.mem_cons_of_mem lane member)
      have same := each lane List.mem_cons_self state.world
      unfold runLanes
      generalize lane.run state.world = result at same ⊢
      obtain ⟨flow, world⟩ := result
      simp only
      split
      · have led := lead world
        generalize runWinner world = result at led
        obtain ⟨winner, after⟩ := result
        exact (ih ⟨_, true, winner, after⟩ later).trans (led.trans same)
      · exact (ih ⟨_, _, _, world⟩ later).trans same

theorem race_clock {lanes : List (Flow Bool)} {started : Bool} {winner : Flow Bool}
    {next : Option Bool → Flow α} {world : World}
    (each : ∀ lane ∈ lanesFrom 0 lanes, ∀ world, (lane.run world).2.clock = world.clock)
    (lead : ∀ world, (run winner world).2.clock = world.clock)
    (onward : ∀ value world, (run (next value) world).2.clock = world.clock) :
    (run (.race lanes started winner next) world).2.clock = world.clock := by
  obtain ⟨leader, isLeader⟩ : ∃ leader, leader = if started then run winner world else (winner, world) :=
    ⟨_, rfl⟩
  have led : leader.2.clock = world.clock := by
    subst isLeader
    split
    · exact lead world
    · rfl
  have raced := runLanes_clock lead (readyLanes leader.2 (lanesFrom 0 lanes))
    ⟨[], started, leader.1, leader.2⟩ fun lane member =>
      each lane (List.mem_filter.mp ((readyLanes_perm _ _).mem_iff.mp member)).1
  rw [run, ← isLeader]
  simp only
  generalize runLanes (run winner) (readyLanes leader.2 (lanesFrom 0 lanes))
    ⟨[], started, leader.1, leader.2⟩ = after at raced ⊢
  split
  · exact (onward none after.world).trans (raced.trans led)
  · exact (onward _ after.world).trans (raced.trans led)
  · exact raced.trans led

mutual

theorem run_clock : ∀ {α : Type} (flow : Flow α) (world : World), (run flow world).2.clock = world.clock
  | _, .done _, _ => rfl
  | _, .ask request next, world =>
      (run_clock (next (world.answer request).1) (world.answer request).2).trans (world.answer_clock request)
  | _, .sleep time next, world => by
      have onward := run_clock next world
      rw [run]
      split
      · exact onward
      · rfl
  | _, .asleep due _ next, world => by
      have onward := run_clock next world
      rw [run]
      split
      · exact onward
      · rfl
  | _, .await id next, world => by
      have onward := fun reply world => run_clock (next reply) world
      rw [run]
      split
      · exact onward _ _
      · split
        · rfl
        · exact onward _ _
  | _, .both left right next, world => by
      have one := run_clock left world
      have two := run_clock right (run left world).2
      have onward := fun a b world => run_clock (next a b) world
      rw [run]
      simp only
      split
      · exact (onward _ _ _).trans (two.trans one)
      · exact two.trans one
  | _, .first left right next, world => by
      have one := run_clock left world
      have two := run_clock right (run left world).2
      have onward := fun a world => run_clock (next a) world
      rw [run]
      simp only
      split
      · exact (onward _ _).trans one
      · split
        · exact (onward _ _).trans (two.trans one)
        · exact two.trans one
  | _, .race lanes _ winner next, _ =>
      race_clock (lanes_clock lanes 0) (run_clock winner) fun value => run_clock (next value)

theorem lanes_clock : ∀ (lanes : List (Flow Bool)) (place : Nat),
    ∀ lane ∈ lanesFrom place lanes, ∀ world, (lane.run world).2.clock = world.clock
  | [], _ => nofun
  | lane :: rest, place => by
      unfold lanesFrom
      intro entry member
      rcases List.mem_cons.mp member with rfl | member
      · exact run_clock lane
      · exact lanes_clock rest (place + 1) entry member

end

theorem run_of_lanesFrom : ∀ (lanes : List (Flow Bool)) (place : Nat),
    ∀ lane ∈ lanesFrom place lanes, lane.run = run lane.flow
  | [], _ => nofun
  | lane :: rest, place => by
      unfold lanesFrom
      intro entry member
      rcases List.mem_cons.mp member with rfl | member
      · rfl
      · exact run_of_lanesFrom rest (place + 1) entry member

/-- What is kept when the lanes of a race, or its winner, are run one after the other.  Each of them is run
once, as it was at first. -/
structure RaceKeeps (fits : Flow Bool → Prop)
    (known : World → List (Flow Bool) → Bool → Flow Bool → Prop) : Prop where
  lane : ∀ {world ahead lane behind started winner}, fits lane →
    known world (ahead ++ lane :: behind) started winner →
    known (run lane world).2 (ahead ++ (run lane world).1 :: behind) started winner
  winner : ∀ {world lanes started winner}, fits winner → known world lanes started winner →
    known (run winner world).2 lanes true (run winner world).1

variable {fits : Flow Bool → Prop} {known : World → List (Flow Bool) → Bool → Flow Bool → Prop}

theorem RaceKeeps.runLane (keeps : RaceKeeps fits known) {entries : List Lane} {winner : Flow Bool}
    {lane : Lane} {state : Race} {ahead behind : List (Flow Bool)}
    (pick : Picks entries state.moved lane ahead behind) (fitting : fits lane.flow) (leading : fits winner)
    (runs : lane.run = run lane.flow) (unstarted : state.started = false → state.winner = winner)
    (knows : known state.world (lanesNow state.moved entries) state.started state.winner) :
    let after := runLanes (run winner) [lane] state
    (after.started = false → after.winner = winner) ∧
      known after.world (lanesNow after.moved entries) after.started after.winner := by
  rw [pick.before] at knows
  have later := keeps.lane fitting knows
  unfold runLanes
  rw [runs]
  generalize run lane.flow state.world = result at later
  obtain ⟨flow, world⟩ := result
  simp only
  split
  next _ notStarted =>
    rw [unstarted notStarted] at later
    have led := keeps.winner leading later
    generalize run winner world = result at led
    obtain ⟨leader, after⟩ := result
    refine ⟨nofun, ?_⟩
    simp only [runLanes, pick.after]
    exact led
  next =>
    refine ⟨unstarted, ?_⟩
    simp only [runLanes, pick.after]
    exact later

theorem RaceKeeps.runLanes (keeps : RaceKeeps fits known) {entries : List Lane} {winner : Flow Bool}
    (distinct : (entries.map Lane.place).Nodup) (runs : ∀ lane ∈ entries, lane.run = run lane.flow)
    (fitting : ∀ lane ∈ entries, fits lane.flow) (leading : fits winner) :
    ∀ (todo : List Lane) (state : Race), (∀ lane ∈ todo, lane ∈ entries) →
      (state.moved.map Prod.fst ++ todo.map Lane.place).Nodup →
      (state.started = false → state.winner = winner) →
      known state.world (lanesNow state.moved entries) state.started state.winner →
      let after := Flow.runLanes (run winner) todo state
      known after.world (lanesNow after.moved entries) after.started after.winner := by
  intro todo
  induction todo with
  | nil => exact fun _ _ _ _ knows => knows
  | cons lane rest ih =>
      intro state within apart unstarted knows
      have member := within lane List.mem_cons_self
      have unmoved : ∀ entry ∈ state.moved, entry.1 ≠ lane.place := fun entry isMoved =>
        (List.nodup_append.mp apart).2.2 entry.1 (List.mem_map_of_mem isMoved) lane.place (by simp)
      obtain ⟨ahead, behind, pick⟩ := picks distinct member unmoved
      obtain ⟨stillUnstarted, knowsMore⟩ :=
        keeps.runLane pick (fitting lane member) leading (runs lane member) unstarted knows
      rw [runLanes_cons]
      refine ih _ (fun other inRest => within other (List.mem_cons_of_mem lane inRest)) ?_ stillUnstarted
        knowsMore
      rw [places_runLanes]
      simpa using apart

/-- How a race goes on when its lanes were taken further. -/
def conclude (next : Option Bool → Flow α) (left : List (Flow Bool)) (started : Bool) (winner : Flow Bool)
    (world : World) : Flow α × World :=
  match left, started, winner.value? with
  | [], false, _ => run (next none) world
  | [], true, some value => run (next (some value)) world
  | left, started, _ => (.race left started winner next, world)

/-- A race that is all there is goes on, or it is over. -/
theorem conclude_done (left : List (Flow Bool)) (started : Bool) (winner : Flow Bool) (world : World) :
    conclude .done left started winner world = (.race left started winner .done, world) ∨
      left = [] ∧ ∃ outcome, conclude .done left started winner world = (.done outcome, world) := by
  unfold conclude
  split
  · exact .inr ⟨rfl, _, rfl⟩
  · exact .inr ⟨rfl, _, rfl⟩
  · exact .inl rfl

/-- What is kept when a race is run. -/
theorem RaceKeeps.run (keeps : RaceKeeps fits known) {lanes : List (Flow Bool)} {started : Bool}
    {winner : Flow Bool} (next : Option Bool → Flow α) {world : World}
    (fitting : ∀ lane ∈ lanes, fits lane) (leading : fits winner) (knows : known world lanes started winner) :
    ∃ after all begun leader, known after all begun leader ∧
      Flow.run (.race lanes started winner next) world =
        conclude next (all.filter fun flow => flow.value?.isNone) begun leader after := by
  obtain ⟨leader, isLeader⟩ :
      ∃ leader, leader = if started then Flow.run winner world else (winner, world) := ⟨_, rfl⟩
  have led : known leader.2 lanes started leader.1 ∧ (started = false → leader.1 = winner) := by
    subst isLeader
    cases started with
    | true => exact ⟨keeps.winner leading knows, nofun⟩
    | false => exact ⟨knows, fun _ => rfl⟩
  obtain ⟨distinct, -, flows⟩ := places_lanesFrom lanes 0
  have perm := readyLanes_perm leader.2 (lanesFrom 0 lanes)
  have entering : ∀ lane ∈ lanesFrom 0 lanes, fits lane.flow := fun lane member =>
    fitting lane.flow (flows ▸ List.mem_map_of_mem member)
  have whole := keeps.runLanes distinct (run_of_lanesFrom lanes 0) entering leading
    (readyLanes leader.2 (lanesFrom 0 lanes)) ⟨[], started, leader.1, leader.2⟩
    (fun lane member => (List.mem_filter.mp (perm.mem_iff.mp member)).1)
    ((perm.map Lane.place).nodup_iff.mpr (distinct.sublist (List.filter_sublist.map _))) led.2
    (by rw [lanesNow_nil, flows]; exact led.1)
  refine ⟨_, _, _, _, whole, ?_⟩
  rw [Flow.run, ← isLeader]
  rfl

/-- The first of two flows in sequence is run, and then the second if the first is done. -/
def andThen (f : α → Flow β) (result : Flow α × World) : Flow β × World :=
  match result.1.value? with
  | some value => run (f value) result.2
  | none => (result.1.bind f, result.2)

theorem run_bind (f : α → Flow β) : ∀ (flow : Flow α) (world : World),
    run (flow.bind f) world = andThen f (run flow world)
  | .done _, _ => rfl
  | .ask request next, world => run_bind f (next (world.answer request).1) (world.answer request).2
  | .sleep time next, world => by
      have onward := run_bind f next world
      rw [bind, run, run]
      split
      · exact onward
      · rfl
  | .asleep due _ next, world => by
      have onward := run_bind f next world
      rw [bind, run, run]
      split
      · exact onward
      · rfl
  | .await id next, world => by
      have onward := fun reply world => run_bind f (next reply) world
      rw [bind, run, run]
      split
      · exact onward _ _
      · split
        · rfl
        · exact onward _ _
  | .both left right next, world => by
      have onward := fun a b world => run_bind f (next a b) world
      rw [bind, run, run]
      simp only
      split
      · exact onward _ _ _
      · rfl
  | .first left right next, world => by
      have onward := fun a world => run_bind f (next a) world
      rw [bind, run, run]
      simp only
      split
      · exact onward _ _
      · split
        · exact onward _ _
        · rfl
  | .race lanes started winner next, world => by
      have onward := fun value world => run_bind f (next value) world
      rw [bind, run, run]
      simp only
      split
      · exact onward _ _
      · exact onward _ _
      · rfl

variable {f : α → Flow β} {flow : Flow α}

theorem value?_bind (pending : flow.value? = none) : (flow.bind f).value? = none := by
  cases flow with
  | done value => cases pending
  | _ => rfl

theorem readyAt_bind (world : World) (pending : flow.value? = none) :
    (flow.bind f).readyAt world = flow.readyAt world := by
  cases flow with
  | done value => cases pending
  | race lanes started winner next =>
      cases started with
      | true => rw [bind, readyAt_started, readyAt_started]
      | false => cases lanes <;> rfl
  | _ => rfl

theorem nextDue_bind (pending : flow.value? = none) : (flow.bind f).nextDue = flow.nextDue := by
  cases flow with
  | done value => cases pending
  | _ => rfl

end Flow

end ConsentBanner

import ConsentBanner.Proofs.Flow.Confined
import ConsentBanner.Proofs.Flow.Running

/-!
# Flows that do not ask what is remembered

A flow that neither asks what handlers remember nor changes it is run the same way whatever they remember, and
leaves that as it is: `Flow.Confined.oblivious`.
-/

set_option autoImplicit false

namespace ConsentBanner

def Request.IsOblivious : {β : Type} → Request β → Prop
  | _, .memory _ | _, .remember _ _ => False
  | _, _ => True

/-- The world in which handlers remember something else. -/
def World.withMemories (world : World) (memories : Keyed Nat Memory) : World :=
  { world with memories := memories }

/-- What is done the same way whatever handlers remember, and leaves that as it is. -/
def Oblivious {α : Type 1} (run : World → α × World) : Prop :=
  ∀ world memories, run (world.withMemories memories) = ((run world).1, (run world).2.withMemories memories)

theorem World.answer_withMemories {β : Type} {request : Request β} (oblivious : request.IsOblivious) (world : World)
    (memories : Keyed Nat Memory) : (world.withMemories memories).answer request =
      ((world.answer request).1, (world.answer request).2.withMemories memories) := by
  cases request with
  | memory _ | remember _ _ => cases oblivious
  | _ => rfl

namespace Flow

variable {α β γ : Type}

mutual

theorem readyAt_withMemories (world : World) (memories : Keyed Nat Memory) : ∀ {α : Type} (flow : Flow α),
    flow.readyAt (world.withMemories memories) = flow.readyAt world
  | _, .done _ => rfl
  | _, .ask _ _ => rfl
  | _, .sleep _ _ => rfl
  | _, .asleep _ _ _ => rfl
  | _, .await _ _ => rfl
  | _, .both left right _ => by
      rw [readyAt, readyAt, readyAt_withMemories world memories left, readyAt_withMemories world memories right]
  | _, .first left right _ => by
      rw [readyAt, readyAt, readyAt_withMemories world memories left, readyAt_withMemories world memories right]
  | _, .race lanes started winner _ => by
      have lead := readyAt_withMemories world memories winner
      have others := lanesReadyAt_withMemories world memories lanes
      cases started with
      | true => rw [readyAt_started, readyAt_started, lead, others]
      | false =>
        cases lanes with
        | nil => rfl
        | cons lane rest => exact others

theorem lanesReadyAt_withMemories (world : World) (memories : Keyed Nat Memory) : ∀ lanes : List (Flow Bool),
    lanesReadyAt (world.withMemories memories) lanes = lanesReadyAt world lanes
  | [] => rfl
  | lane :: rest => by
      rw [lanesReadyAt, lanesReadyAt, readyAt_withMemories world memories lane,
        lanesReadyAt_withMemories world memories rest]

end

theorem readyLanes_withMemories (world : World) (memories : Keyed Nat Memory) (lanes : List Lane) :
    readyLanes (world.withMemories memories) lanes = readyLanes world lanes := by
  simp only [readyLanes, readyAt_withMemories]

/-- The race while handlers remember something else. -/
def Race.withMemories (race : Race) (memories : Keyed Nat Memory) : Race :=
  { race with world := race.world.withMemories memories }

theorem runLanes_withMemories {lead : Runner} (leads : Oblivious lead) (memories : Keyed Nat Memory) :
    ∀ (todo : List Lane) (race : Race), (∀ lane ∈ todo, Oblivious lane.run) →
      runLanes lead todo (race.withMemories memories) = (runLanes lead todo race).withMemories memories := by
  intro todo
  induction todo with
  | nil => exact fun race _ => rfl
  | cons lane rest ih =>
      rintro ⟨moved, started, winner, world⟩ each
      have later := fun other member => each other (List.mem_cons_of_mem lane member)
      have moves := each lane List.mem_cons_self world memories
      rw [Race.withMemories, runLanes, runLanes, moves]
      generalize lane.run world = result
      obtain ⟨flow, world⟩ := result
      simp only
      split
      · rw [leads]
        exact ih ⟨_, true, _, _⟩ later
      · exact ih ⟨_, _, _, world⟩ later

theorem race_oblivious {lanes : List (Flow Bool)} {started : Bool} {winner : Flow Bool} {next : Option Bool → Flow α}
    (each : ∀ lane ∈ lanesFrom 0 lanes, Oblivious lane.run) (lead : Oblivious (run winner))
    (onward : ∀ value, Oblivious (run (next value))) : Oblivious (run (.race lanes started winner next)) := by
  intro world memories
  have leads : (if started then run winner (world.withMemories memories) else (winner, world.withMemories memories)) =
      ((if started then run winner world else (winner, world)).1,
        (if started then run winner world else (winner, world)).2.withMemories memories) := by
    cases started with
    | true => exact lead world memories
    | false => rfl
  rw [run, run, leads]
  generalize (if started then run winner world else (winner, world)) = leader
  obtain ⟨leader, world⟩ := leader
  have within : ∀ lane ∈ readyLanes world (lanesFrom 0 lanes), Oblivious lane.run := fun lane member =>
    each lane (List.mem_filter.mp ((readyLanes_perm _ _).mem_iff.mp member)).1
  have raced := runLanes_withMemories lead memories _ ⟨[], started, leader, world⟩ within
  simp only [readyLanes_withMemories]
  rw [show (⟨[], started, leader, world.withMemories memories⟩ : Race) =
    (⟨[], started, leader, world⟩ : Race).withMemories memories from rfl, raced]
  generalize runLanes (run winner) (readyLanes world (lanesFrom 0 lanes)) ⟨[], started, leader, world⟩ = after
  simp only [Race.withMemories]
  split
  · exact onward none after.world memories
  · exact onward _ after.world memories
  · rfl

mutual

/-- A flow that does not ask what is remembered is run the same way whatever that is. -/
theorem Confined.oblivious {alone : Bool} : ∀ {α : Type} {flow : Flow α}, flow.Confined Request.IsOblivious alone →
    Oblivious (run flow)
  | _, .done _, _ => fun _ _ => rfl
  | _, .ask request next, confined => fun world memories => by
      have onward := fun reply => Confined.oblivious (confined.2 reply)
      rw [run, run, World.answer_withMemories confined.1.1]
      exact onward _ _ memories
  | _, .sleep time next, confined => fun world memories => by
      have onward := Confined.oblivious (show next.Confined Request.IsOblivious alone from confined)
      rw [run, run]
      split
      · exact onward world memories
      · rfl
  | _, .asleep due order next, confined => fun world memories => by
      have onward := Confined.oblivious (show next.Confined Request.IsOblivious alone from confined)
      rw [run, run, show (world.withMemories memories).clock = world.clock from rfl]
      split
      · exact onward world memories
      · rfl
  | _, .await id next, confined => fun world memories => by
      have onward := fun reply => Confined.oblivious (confined.2 reply)
      rw [run, run, show (world.withMemories memories).bridge = world.bridge from rfl]
      split
      · exact onward _ (world.forget [id]) memories
      · split
        · rfl
        · exact onward none world memories
  | _, .both left right next, confined => fun world memories => by
      have one := Confined.oblivious confined.1
      have two := Confined.oblivious confined.2.1
      have onward := fun a b => Confined.oblivious (confined.2.2 a b)
      rw [run, run, one]
      generalize run left world = result
      obtain ⟨left, world⟩ := result
      simp only [two world memories]
      split
      · exact onward _ _ _ memories
      · rfl
  | _, .first left right next, confined => fun world memories => by
      have sides : Oblivious (run left) ∧ Oblivious (run right) := by
        rcases confined.1 with ⟨one, two⟩ | ⟨one, two⟩
        · exact ⟨Confined.oblivious one, Confined.oblivious two⟩
        · exact ⟨Confined.oblivious one, Confined.oblivious two⟩
      have onward := fun a => Confined.oblivious (confined.2 a)
      rw [run, run, sides.1]
      generalize run left world = result
      obtain ⟨left, world⟩ := result
      simp only [sides.2 world memories]
      split
      · exact onward _ (world.forget right.awaited) memories
      · split
        · exact onward _ ((run right world).2.forget left.awaited) memories
        · rfl
  | _, .race _ _ _ _, confined =>
      race_oblivious (LanesConfined.oblivious confined.1 0) (Confined.oblivious confined.2.1) fun value =>
        Confined.oblivious (confined.2.2 value)

theorem LanesConfined.oblivious {alone : Bool} : ∀ {lanes : List (Flow Bool)},
    LanesConfined Request.IsOblivious alone lanes → ∀ place, ∀ lane ∈ lanesFrom place lanes, Oblivious lane.run
  | [], _, _ => nofun
  | lane :: rest, confined, place => by
      unfold lanesFrom
      intro entry member
      rcases List.mem_cons.mp member with rfl | member
      · exact Confined.oblivious confined.1
      · exact LanesConfined.oblivious confined.2 (place + 1) entry member

end

end Flow

end ConsentBanner

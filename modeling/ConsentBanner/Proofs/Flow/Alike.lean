import ConsentBanner.Proofs.Flow.Confined
import ConsentBanner.Proofs.Flow.Running
import Mathlib.Data.List.Forall2

/-!
# Flows that do the same

Two flows are alike if they make the same requests and differ only in what they take from the engine and
tell it, which is similar.  What counts as similar is left open.  Alike flows stay alike when they are run
in worlds that differ in no more than similar engines: `Flow.Alike.run`.
-/

set_option autoImplicit false

namespace ConsentBanner

/-- Requests that have nothing to do with what the engine knows. -/
def Request.IsFree : {β : Type} → Request β → Prop
  | _, .state => False
  | _, .update _ => False
  | _, _ => True

variable {similar : EngineState → EngineState → Prop}

/-- Worlds that differ in no more than similar engines. -/
structure World.Alike (similar : EngineState → EngineState → Prop) (one two : World) : Prop where
  engine : similar one.engine two.engine
  rest : two = { one with engine := two.engine }

namespace World.Alike

variable {one two : World}

theorem clock (alike : one.Alike similar two) : two.clock = one.clock := by rw [alike.rest]

theorem order (alike : one.Alike similar two) : two.order = one.order := by rw [alike.rest]

theorem bridge (alike : one.Alike similar two) : two.bridge = one.bridge := by rw [alike.rest]

/-- What has nothing to do with the engine happens to both worlds alike. -/
theorem keep (alike : one.Alike similar two) (change : World → World)
    (apart : ∀ world engine, change { world with engine := engine } = { change world with engine := engine })
    (kept : ∀ world, (change world).engine = world.engine) : (change one).Alike similar (change two) := by
  obtain ⟨engine, rest⟩ := alike
  generalize two.engine = other at engine rest
  subst rest
  rw [apart one other]
  refine ⟨?_, rfl⟩
  rw [kept]
  exact engine

theorem forget (alike : one.Alike similar two) (ids : List String) :
    (one.forget ids).Alike similar (two.forget ids) :=
  alike.keep (World.forget · ids) (fun _ _ => rfl) fun _ => rfl

theorem update (alike : one.Alike similar two) {change alter : EngineState → EngineState}
    (keeps : ∀ one two, similar one two → similar (change one) (alter two)) :
    { one with engine := change one.engine }.Alike similar { two with engine := alter two.engine } := by
  obtain ⟨engine, rest⟩ := alike
  generalize two.engine = other at engine rest
  subst rest
  exact ⟨keeps _ _ engine, rfl⟩

theorem answer (alike : one.Alike similar two) {β : Type} {request : Request β} (free : request.IsFree) :
    (one.answer request).1 = (two.answer request).1 ∧
      (one.answer request).2.Alike similar (two.answer request).2 := by
  obtain ⟨engine, rest⟩ := alike
  generalize two.engine = other at engine rest
  subst rest
  cases request with
  | state | update _ => cases free
  | _ => exact ⟨rfl, engine, rfl⟩

end World.Alike

theorem eq_of_rel {α : Type} {one two : Option α} (same : Option.Rel Eq one two) : one = two := by
  cases same with
  | none => rfl
  | some value => rw [value]

namespace Flow

/-- Flows that make the same requests, apart from what they take from the engine and tell it. -/
inductive Alike (similar : EngineState → EngineState → Prop) :
    {α : Type} → (α → α → Prop) → Flow α → Flow α → Prop where
  | done {α : Type} {same : α → α → Prop} {a b : α} (value : same a b) :
      Alike similar same (.done a) (.done b)
  | ask {α β : Type} {same : α → α → Prop} {request : Request β} {next other : β → Flow α}
      (free : request.IsFree) (onward : ∀ reply, Alike similar same (next reply) (other reply)) :
      Alike similar same (.ask request next) (.ask request other)
  | state {α : Type} {same : α → α → Prop} {next other : EngineState → Flow α}
      (onward : ∀ one two, similar one two → Alike similar same (next one) (other two)) :
      Alike similar same (.ask .state next) (.ask .state other)
  | update {α : Type} {same : α → α → Prop} {change alter : EngineState → EngineState}
      {next other : Unit → Flow α} (keeps : ∀ one two, similar one two → similar (change one) (alter two))
      (onward : Alike similar same (next ()) (other ())) :
      Alike similar same (.ask (.update change) next) (.ask (.update alter) other)
  | sleep {α : Type} {same : α → α → Prop} {next other : Flow α} (time : Nat)
      (onward : Alike similar same next other) : Alike similar same (.sleep time next) (.sleep time other)
  | asleep {α : Type} {same : α → α → Prop} {next other : Flow α} (due order : Nat)
      (onward : Alike similar same next other) :
      Alike similar same (.asleep due order next) (.asleep due order other)
  | await {α : Type} {same : α → α → Prop} {next other : Option Json → Flow α} (id : String)
      (onward : ∀ reply, Alike similar same (next reply) (other reply)) :
      Alike similar same (.await id next) (.await id other)
  | both {α β γ : Type} {same : α → α → Prop} {sameLeft : β → β → Prop} {sameRight : γ → γ → Prop}
      {left left' : Flow β} {right right' : Flow γ} {next other : β → γ → Flow α}
      (one : Alike similar sameLeft left left') (two : Alike similar sameRight right right')
      (onward : ∀ a a' b b', sameLeft a a' → sameRight b b' → Alike similar same (next a b) (other a' b')) :
      Alike similar same (.both left right next) (.both left' right' other)
  | first {α β : Type} {same : α → α → Prop} {sameValue : β → β → Prop} {left left' right right' : Flow β}
      {next other : β → Flow α} (one : Alike similar sameValue left left')
      (two : Alike similar sameValue right right')
      (onward : ∀ a a', sameValue a a' → Alike similar same (next a) (other a')) :
      Alike similar same (.first left right next) (.first left' right' other)
  | race {α : Type} {same : α → α → Prop} {lanes lanes' : List (Flow Bool)} {started : Bool}
      {winner winner' : Flow Bool} {next other : Option Bool → Flow α}
      (many : lanes.length = lanes'.length)
      (each : ∀ {lane lane' : Flow Bool}, (lane, lane') ∈ lanes.zip lanes' → Alike similar Eq lane lane')
      (lead : Alike similar Eq winner winner')
      (onward : ∀ outcome, Alike similar same (next outcome) (other outcome)) :
      Alike similar same (.race lanes started winner next) (.race lanes' started winner' other)

namespace Alike

variable {α β : Type} {same : α → α → Prop} {sameAfter : β → β → Prop}

theorem lanes {lanes lanes' : List (Flow Bool)} {started : Bool} {winner winner' : Flow Bool}
    {next other : Option Bool → Flow α} (each : List.Forall₂ (Alike similar Eq) lanes lanes')
    (lead : Alike similar Eq winner winner')
    (onward : ∀ outcome, Alike similar same (next outcome) (other outcome)) :
    Alike similar same (.race lanes started winner next) (.race lanes' started winner' other) := by
  obtain ⟨many, members⟩ := List.forall₂_iff_zip.mp each
  exact .race many members lead onward

theorem bind {one two : Flow α} {f g : α → Flow β} (alike : Alike similar same one two)
    (onward : ∀ a b, same a b → Alike similar sameAfter (f a) (g b)) :
    Alike similar sameAfter (one.bind f) (two.bind g) := by
  induction alike with
  | done value => exact onward _ _ value
  | ask free _ ih => exact .ask free fun reply => ih reply onward
  | state _ ih => exact .state fun one two similar => ih one two similar onward
  | update keeps _ ih => exact .update keeps (ih onward)
  | sleep time _ ih => exact .sleep time (ih onward)
  | asleep due order _ ih => exact .asleep due order (ih onward)
  | await id _ ih => exact .await id fun reply => ih reply onward
  | both one two _ _ _ ih => exact .both one two fun a a' b b' left right => ih a a' b b' left right onward
  | first one two _ _ _ ih => exact .first one two fun a a' value => ih a a' value onward
  | race many each lead _ _ _ ih => exact .race many each lead fun outcome => ih outcome onward

theorem andThen {one two : Flow α} {f g : α → Flow β} (alike : Alike similar same one two)
    (onward : ∀ a b, same a b → Alike similar sameAfter (f a) (g b)) :
    Alike similar sameAfter (one >>= f) (two >>= g) := bind alike onward

theorem pure {a b : α} (value : same a b) : Alike similar same (Pure.pure a) (Pure.pure b) := .done value

theorem all {flows flows' : List (Flow α)} (each : List.Forall₂ (Alike similar same) flows flows') :
    Alike similar (List.Forall₂ same) (Flow.all flows) (Flow.all flows') := by
  induction each with
  | nil => exact .done .nil
  | cons first _ ih => exact .both first ih fun a a' b b' head tail => .done (.cons head tail)

end Alike

mutual

/-- A flow that has nothing to do with the engine is like itself. -/
theorem Confined.alike {alone : Bool} : ∀ {α : Type} {flow : Flow α},
    flow.Confined Request.IsFree alone → Alike similar Eq flow flow
  | _, .done _, _ => .done rfl
  | _, .ask _ _, confined => .ask confined.1.1 fun reply => Confined.alike (confined.2 reply)
  | _, .sleep time next, confined =>
      .sleep time (Confined.alike (show next.Confined Request.IsFree alone from confined))
  | _, .asleep due order next, confined =>
      .asleep due order (Confined.alike (show next.Confined Request.IsFree alone from confined))
  | _, .await id _, confined => .await id fun reply => Confined.alike (confined.2 reply)
  | _, .both _ _ _, confined =>
      .both (Confined.alike confined.1) (Confined.alike confined.2.1) fun a _ b _ left right =>
        left ▸ right ▸ Confined.alike (confined.2.2 a b)
  | _, .first left right _, confined => by
      have onward := fun a => Confined.alike (confined.2 a)
      have sides : Alike similar Eq left left ∧ Alike similar Eq right right := by
        rcases confined.1 with ⟨one, two⟩ | ⟨one, two⟩
        · exact ⟨Confined.alike one, Confined.alike two⟩
        · exact ⟨Confined.alike one, Confined.alike two⟩
      exact .first sides.1 sides.2 fun a _ value => value ▸ onward a
  | _, .race _ _ _ _, confined =>
      .lanes (LanesConfined.alike confined.1) (Confined.alike confined.2.1) fun outcome =>
        Confined.alike (confined.2.2 outcome)

theorem LanesConfined.alike {alone : Bool} : ∀ {lanes : List (Flow Bool)},
    LanesConfined Request.IsFree alone lanes → List.Forall₂ (Alike similar Eq) lanes lanes
  | [], _ => .nil
  | _ :: _, confined => .cons (Confined.alike confined.1) (LanesConfined.alike confined.2)

end

/-! ## What can be seen of alike flows -/

theorem lanesAwaited_congr {lanes lanes' : List (Flow Bool)}
    (each : List.Forall₂ (fun one two => one.awaited = two.awaited) lanes lanes') :
    lanesAwaited lanes = lanesAwaited lanes' := by
  induction each with
  | nil => rfl
  | cons first _ ih => rw [lanesAwaited, lanesAwaited, first, ih]

theorem lanesNextDue_congr {lanes lanes' : List (Flow Bool)}
    (each : List.Forall₂ (fun one two => one.nextDue = two.nextDue) lanes lanes') :
    lanesNextDue lanes = lanesNextDue lanes' := by
  induction each with
  | nil => rfl
  | cons first _ ih => rw [lanesNextDue, lanesNextDue, first, ih]

theorem lanesReadyAt_congr {world other : World} {lanes lanes' : List (Flow Bool)}
    (each : List.Forall₂ (fun one two => one.readyAt world = two.readyAt other) lanes lanes') :
    lanesReadyAt world lanes = lanesReadyAt other lanes' := by
  induction each with
  | nil => rfl
  | cons first _ ih => rw [lanesReadyAt, lanesReadyAt, first, ih]

namespace Alike

variable {α : Type} {same : α → α → Prop}

theorem value? {one two : Flow α} (alike : Alike similar same one two) :
    Option.Rel same one.value? two.value? := by
  cases alike with
  | done value => exact .some value
  | _ => exact .none

theorem value?_eq {one two : Flow α} (alike : Alike similar Eq one two) : one.value? = two.value? :=
  eq_of_rel alike.value?

theorem isSome_value? {one two : Flow α} (alike : Alike similar same one two) :
    one.value?.isSome = two.value?.isSome := by
  have values := alike.value?
  generalize one.value? = left at values ⊢
  generalize two.value? = right at values ⊢
  cases values <;> rfl

theorem awaited {one two : Flow α} (alike : Alike similar same one two) : one.awaited = two.awaited := by
  induction alike with
  | both _ _ _ left right => rw [Flow.awaited, Flow.awaited, left, right]
  | first _ _ _ left right => rw [Flow.awaited, Flow.awaited, left, right]
  | race many _ _ _ each lead =>
      have lanes := lanesAwaited_congr (List.forall₂_iff_zip.mpr ⟨many, each⟩)
      rw [Flow.awaited, Flow.awaited, lanes, lead]
  | _ => rfl

theorem nextDue {one two : Flow α} (alike : Alike similar same one two) : one.nextDue = two.nextDue := by
  induction alike with
  | both _ _ _ left right => rw [Flow.nextDue, Flow.nextDue, left, right]
  | first _ _ _ left right => rw [Flow.nextDue, Flow.nextDue, left, right]
  | race many _ _ _ each lead =>
      have lanes := lanesNextDue_congr (List.forall₂_iff_zip.mpr ⟨many, each⟩)
      rw [Flow.nextDue, Flow.nextDue, lanes, lead]
  | _ => rfl

theorem readyAt {one two : Flow α} (alike : Alike similar same one two) {world other : World}
    (worlds : world.Alike similar other) : one.readyAt world = two.readyAt other := by
  induction alike with
  | asleep due order _ _ => rw [Flow.readyAt, Flow.readyAt, worlds.clock]
  | await id _ _ => rw [Flow.readyAt, Flow.readyAt, worlds.bridge]
  | both one two _ left right =>
      rw [Flow.readyAt, Flow.readyAt, one.isSome_value?, two.isSome_value?, left, right]
  | first _ _ _ left right => rw [Flow.readyAt, Flow.readyAt, left, right]
  | @race _ _ lanes lanes' started winner winner' _ _ many _ leads _ each lead =>
      have ready := lanesReadyAt_congr (List.forall₂_iff_zip.mpr ⟨many, each⟩)
      have empty : lanes.isEmpty = lanes'.isEmpty := by
        cases lanes <;> cases lanes' <;> simp at many ⊢
      cases started with
      | true => rw [readyAt_started, readyAt_started, leads.isSome_value?, empty, ready, lead]
      | false =>
          cases lanes with
          | nil =>
              cases lanes' with
              | nil => rfl
              | cons lane' rest' => simp at many
          | cons lane rest =>
              cases lanes' with
              | nil => simp at many
              | cons lane' rest' => exact ready
  | _ => rfl

end Alike

/-! ## Alike flows are run -/

/-- What alike flows come to when they are run. -/
structure Matched (similar : EngineState → EngineState → Prop) {α : Type} (same : α → α → Prop)
    (one two : Flow α × World) : Prop where
  flow : Alike similar same one.1 two.1
  world : one.2.Alike similar two.2

def RunAlike (similar : EngineState → EngineState → Prop) {α : Type} (same : α → α → Prop)
    (one two : World → Flow α × World) : Prop :=
  ∀ ⦃world other : World⦄, world.Alike similar other → Matched similar same (one world) (two other)

/-- Lanes with the same place, whose flows are alike and are taken further alike. -/
structure LanesMatch (similar : EngineState → EngineState → Prop) (one two : Lane) : Prop where
  place : one.place = two.place
  flow : Alike similar Eq one.flow two.flow
  run : RunAlike similar Eq one.run two.run

theorem insertLane_rel {rel : Lane → Lane → Prop} (order : Nat) {one two : Lane} (first : rel one two)
    {sorted sorted' : List (Nat × Lane)}
    (rest : List.Forall₂ (fun a b => a.1 = b.1 ∧ rel a.2 b.2) sorted sorted') :
    List.Forall₂ (fun a b => a.1 = b.1 ∧ rel a.2 b.2) (insertLane order one sorted)
      (insertLane order two sorted') := by
  induction rest with
  | nil => exact .cons ⟨rfl, first⟩ .nil
  | @cons entry entry' rest rest' head tail ih =>
      unfold insertLane
      rw [← head.1]
      split
      · exact .cons ⟨rfl, first⟩ (.cons head tail)
      · exact .cons head ih

theorem readyLanes_rel {rel : Lane → Lane → Prop} {world other : World}
    (ready : ∀ {one two}, rel one two → one.flow.readyAt world = two.flow.readyAt other)
    {lanes lanes' : List Lane} (each : List.Forall₂ rel lanes lanes') :
    List.Forall₂ rel (readyLanes world lanes) (readyLanes other lanes') := by
  have sorted : List.Forall₂ (fun a b => a.1 = b.1 ∧ rel a.2 b.2)
      (lanes.foldl (sortIn world) []) (lanes'.foldl (sortIn other) []) := by
    refine List.rel_foldl (fun sorted sorted' soFar lane lane' first => ?_) .nil each
    rw [sortIn, sortIn, ready first]
    split
    · exact insertLane_rel _ first soFar
    · exact soFar
  rw [readyLanes_eq, readyLanes_eq]
  exact List.forall₂_map_left_iff.mpr (List.forall₂_map_right_iff.mpr
    (sorted.imp fun _ _ entry => entry.2))

/-- Races that are equally far. -/
structure Race.Matched (similar : EngineState → EngineState → Prop) (one two : Race) : Prop where
  moved : List.Forall₂ (fun a b => a.1 = b.1 ∧ Alike similar Eq a.2 b.2) one.moved two.moved
  started : one.started = two.started
  winner : Alike similar Eq one.winner two.winner
  world : one.world.Alike similar two.world

theorem runLanes_matched {lead lead' : Runner} (leads : RunAlike similar Eq lead lead')
    {todo todo' : List Lane} (each : List.Forall₂ (LanesMatch similar) todo todo') :
    ∀ {state state' : Race}, state.Matched similar state' →
      (runLanes lead todo state).Matched similar (runLanes lead' todo' state') := by
  induction each with
  | nil => exact id
  | @cons lane lane' rest rest' first _ ih =>
      intro state state' matched
      have ran := first.run matched.world
      unfold runLanes
      generalize lane.run state.world = result at ran
      generalize lane'.run state'.world = result' at ran
      obtain ⟨flow, world⟩ := result
      obtain ⟨flow', world'⟩ := result'
      have moved : List.Forall₂ (fun a b => a.1 = b.1 ∧ Alike similar Eq a.2 b.2)
          (state.moved ++ [(lane.place, flow)]) (state'.moved ++ [(lane'.place, flow')]) :=
        List.rel_append matched.moved (.cons ⟨first.place, ran.flow⟩ .nil)
      obtain ⟨ranFlow, ranWorld⟩ := ran
      simp only at ranFlow ranWorld ⊢
      rw [← ranFlow.value?_eq, ← matched.started]
      split
      · have led := leads ranWorld
        generalize lead world = result at led
        generalize lead' world' = result' at led
        obtain ⟨leader, after⟩ := result
        obtain ⟨leader', after'⟩ := result'
        exact @ih ⟨_, true, leader, after⟩ ⟨_, true, leader', after'⟩ ⟨moved, rfl, led.flow, led.world⟩
      · exact ih ⟨moved, rfl, matched.winner, ranWorld⟩

theorem find_matched {moved moved' : List (Nat × Flow Bool)}
    (moves : List.Forall₂ (fun a b => a.1 = b.1 ∧ Alike similar Eq a.2 b.2) moved moved') (place : Nat) :
    Option.Rel (fun a b => Alike similar Eq a.2 b.2) (moved.find? fun entry => entry.1 = place)
      (moved'.find? fun entry => entry.1 = place) := by
  induction moves with
  | nil => exact .none
  | @cons entry entry' _ _ first _ ih =>
      rw [List.find?_cons, List.find?_cons, first.1]
      split
      · exact .some first.2
      · exact ih

theorem remaining_matched {moved moved' : List (Nat × Flow Bool)} {lanes lanes' : List Lane}
    (moves : List.Forall₂ (fun a b => a.1 = b.1 ∧ Alike similar Eq a.2 b.2) moved moved')
    (each : List.Forall₂ (LanesMatch similar) lanes lanes') :
    List.Forall₂ (Alike similar Eq) (remaining moved lanes) (remaining moved' lanes') := by
  have now : List.Forall₂ (Alike similar Eq) (lanesNow moved lanes) (lanesNow moved' lanes') := by
    refine List.forall₂_map_left_iff.mpr (List.forall₂_map_right_iff.mpr (each.imp ?_))
    intro lane lane' same
    have found := find_matched moves lane.place
    rw [← same.place]
    generalize moved.find? (fun entry => entry.1 = lane.place) = mine at found
    generalize moved'.find? (fun entry => entry.1 = lane.place) = other at found
    cases found with
    | none => exact same.flow
    | some alike => exact alike
  exact List.rel_filter (fun one two alike => by simp only [alike.value?_eq]) now

theorem lanesFrom_matched {lanes lanes' : List (Flow Bool)}
    (each : List.Forall₂ (fun one two => Alike similar Eq one two ∧ RunAlike similar Eq one.run two.run) lanes lanes') :
    ∀ place, List.Forall₂ (LanesMatch similar) (lanesFrom place lanes) (lanesFrom place lanes') := by
  induction each with
  | nil => exact fun _ => .nil
  | cons first _ ih =>
      intro place
      unfold lanesFrom
      exact .cons ⟨rfl, first.1, first.2⟩ (ih (place + 1))

theorem race_matched {α : Type} {same : α → α → Prop} {lanes lanes' : List (Flow Bool)} {started : Bool}
    {winner winner' : Flow Bool} {next other : Option Bool → Flow α}
    (each : List.Forall₂ (fun one two => Alike similar Eq one two ∧ RunAlike similar Eq one.run two.run) lanes lanes')
    (alike : Alike similar Eq winner winner') (lead : RunAlike similar Eq winner.run winner'.run)
    (alikeNext : ∀ outcome, Alike similar same (next outcome) (other outcome))
    (onward : ∀ outcome, RunAlike similar same (next outcome).run (other outcome).run) :
    RunAlike similar same (Flow.race lanes started winner next).run (Flow.race lanes' started winner' other).run := by
  intro world world' worlds
  have led : Matched similar Eq (if started then winner.run world else (winner, world))
      (if started then winner'.run world' else (winner', world')) := by
    cases started with
    | true => exact lead worlds
    | false => exact ⟨alike, worlds⟩
  rw [run, run]
  generalize (if started then winner.run world else (winner, world)) = leader at led
  generalize (if started then winner'.run world' else (winner', world')) = leader' at led
  have entries := lanesFrom_matched each 0
  have ready := readyLanes_rel (fun same => same.flow.readyAt led.world) entries
  have start : Race.Matched similar ⟨[], started, leader.1, leader.2⟩ ⟨[], started, leader'.1, leader'.2⟩ :=
    ⟨.nil, rfl, led.flow, led.world⟩
  have raced := runLanes_matched lead ready start
  simp only
  generalize runLanes (run winner) _ _ = after at raced ⊢
  generalize runLanes (run winner') _ _ = after' at raced ⊢
  have left := remaining_matched raced.moved entries
  generalize remaining after.moved _ = left at left ⊢
  generalize remaining after'.moved _ = left' at left ⊢
  have value := raced.winner.value?_eq
  rw [← raced.started, ← value]
  cases left with
  | nil =>
    split
    · exact onward none raced.world
    · exact onward _ raced.world
    · exact ⟨.lanes .nil raced.winner alikeNext, raced.world⟩
  | cons first rest => exact ⟨.lanes (.cons first rest) raced.winner alikeNext, raced.world⟩

theorem both_matched {α β γ : Type} {same : α → α → Prop} {sameLeft : β → β → Prop} {sameRight : γ → γ → Prop}
    {left left' : Flow β} {right right' : Flow γ} {next other : β → γ → Flow α}
    (one : RunAlike similar sameLeft left.run left'.run) (two : RunAlike similar sameRight right.run right'.run)
    (alikeNext : ∀ a a' b b', sameLeft a a' → sameRight b b' → Alike similar same (next a b) (other a' b'))
    (onward : ∀ a a' b b', sameLeft a a' → sameRight b b' → RunAlike similar same (next a b).run (other a' b').run) :
    RunAlike similar same (Flow.both left right next).run (Flow.both left' right' other).run := by
  intro world world' worlds
  have ranLeft := one worlds
  rw [run, run]
  generalize left.run world = result at ranLeft ⊢
  generalize left'.run world' = result' at ranLeft ⊢
  have ranRight := two ranLeft.world
  simp only
  generalize right.run result.2 = last at ranRight ⊢
  generalize right'.run result'.2 = last' at ranRight ⊢
  have leftValue := ranLeft.flow.value?
  have rightValue := ranRight.flow.value?
  generalize result.1.value? = leftEnd at leftValue ⊢
  generalize result'.1.value? = leftEnd' at leftValue ⊢
  generalize last.1.value? = rightEnd at rightValue ⊢
  generalize last'.1.value? = rightEnd' at rightValue ⊢
  have pending := Alike.both ranLeft.flow ranRight.flow alikeNext
  cases leftValue with
  | none => exact ⟨pending, ranRight.world⟩
  | some sameLeft =>
      cases rightValue with
      | none => exact ⟨pending, ranRight.world⟩
      | some sameRight => exact onward _ _ _ _ sameLeft sameRight ranRight.world

theorem first_matched {α β : Type} {same : α → α → Prop} {sameValue : β → β → Prop}
    {left left' right right' : Flow β} {next other : β → Flow α}
    (one : RunAlike similar sameValue left.run left'.run) (alike : Alike similar sameValue right right')
    (two : RunAlike similar sameValue right.run right'.run)
    (alikeNext : ∀ a a', sameValue a a' → Alike similar same (next a) (other a'))
    (onward : ∀ a a', sameValue a a' → RunAlike similar same (next a).run (other a').run) :
    RunAlike similar same (Flow.first left right next).run (Flow.first left' right' other).run := by
  intro world world' worlds
  have ranLeft := one worlds
  rw [run, run]
  generalize left.run world = result at ranLeft ⊢
  generalize left'.run world' = result' at ranLeft ⊢
  have ranRight := two ranLeft.world
  simp only
  generalize right.run result.2 = last at ranRight ⊢
  generalize right'.run result'.2 = last' at ranRight ⊢
  have leftValue := ranLeft.flow.value?
  have rightValue := ranRight.flow.value?
  generalize result.1.value? = leftEnd at leftValue ⊢
  generalize result'.1.value? = leftEnd' at leftValue ⊢
  generalize last.1.value? = rightEnd at rightValue ⊢
  generalize last'.1.value? = rightEnd' at rightValue ⊢
  cases leftValue with
  | some same =>
      rw [alike.awaited]
      exact onward _ _ same (ranLeft.world.forget _)
  | none =>
      cases rightValue with
      | none => exact ⟨.first ranLeft.flow ranRight.flow alikeNext, ranRight.world⟩
      | some same =>
          simp only
          rw [ranLeft.flow.awaited]
          exact onward _ _ same (ranRight.world.forget _)

/-- Alike flows that are run in alike worlds are alike, and so are the worlds. -/
theorem Alike.run {α : Type} {same : α → α → Prop} {one two : Flow α} (alike : Alike similar same one two) :
    RunAlike similar same one.run two.run := by
  induction alike with
  | done value => exact fun _ _ worlds => ⟨.done value, worlds⟩
  | ask free _ ih =>
      intro world other worlds
      obtain ⟨reply, after⟩ := worlds.answer free
      rw [Flow.run, Flow.run]
      simp only
      rw [← reply]
      exact ih _ after
  | state _ ih => exact fun _ _ worlds => ih _ _ worlds.engine worlds
  | update keeps _ ih => exact fun _ _ worlds => ih (worlds.update keeps)
  | sleep time onward ih =>
      intro world other worlds
      rw [Flow.run, Flow.run]
      split
      · exact ih worlds
      · have later := worlds.keep (fun world => { world with order := world.order + 1 })
          (fun _ _ => rfl) fun _ => rfl
        rw [worlds.clock, worlds.order] at later ⊢
        exact ⟨.asleep _ _ onward, later⟩
  | asleep due order onward ih =>
      intro world other worlds
      rw [Flow.run, Flow.run, worlds.clock]
      split
      · exact ih worlds
      · exact ⟨.asleep due order onward, worlds⟩
  | await id onward ih =>
      intro world other worlds
      rw [Flow.run, Flow.run, worlds.bridge]
      split
      · exact ih _ (worlds.forget [id])
      · split
        · exact ⟨.await id onward, worlds⟩
        · exact ih none worlds
  | both _ _ onward ihLeft ihRight ih => exact both_matched ihLeft ihRight onward ih
  | first _ two onward ihLeft ihRight ih => exact first_matched ihLeft two ihRight onward ih
  | race many each lead onward ihEach ihLead ih =>
      exact race_matched (List.forall₂_iff_zip.mpr ⟨many, fun member => ⟨each member, ihEach member⟩⟩)
        lead ihLead onward ih

end Flow

end ConsentBanner

import ConsentBanner.Rehearsal.Run
import ConsentBanner.Proofs.Flow.Alike
import ConsentBanner.Proofs.Rehearsal.Played

/-!
# Rehearsals that do the same

Page and host know neither what the engine knows nor what handlers remember, so what happens around alike flows is the
same: they are heard and answered alike, and time passes alike.  Alike flows that are played the same number of times
come to the same in the same time: `Rehearsal.playFlow_alike`.
-/

set_option autoImplicit false

namespace ConsentBanner

/-! ## What happens outside of flows -/

/-- What only flows ask for and change: what the engine knows and what handlers remember. -/
structure Inside where
  engine : EngineState
  memories : Keyed Nat Memory

def World.withInside (world : World) (inside : Inside) : World :=
  { world with engine := inside.engine, memories := inside.memories }

namespace Rehearsal

def inside (rehearsal : Rehearsal) : Inside := ⟨rehearsal.world.engine, rehearsal.world.memories⟩

def withInside (rehearsal : Rehearsal) (inside : Inside) : Rehearsal :=
  { rehearsal with world := rehearsal.world.withInside inside }

/-- What happens does not depend on what is inside. -/
structure Outside (change : Rehearsal → Rehearsal) : Prop where
  apart : ∀ rehearsal inside, change (rehearsal.withInside inside) = (change rehearsal).withInside inside

namespace Outside

theorem id : Outside fun rehearsal => rehearsal := ⟨fun _ _ => rfl⟩

theorem comp {first second : Rehearsal → Rehearsal} (one : Outside first) (two : Outside second) :
    Outside fun rehearsal => second (first rehearsal) := by
  refine ⟨fun rehearsal inside => ?_⟩
  rw [one.apart, two.apart]

/-- One thing after the other, for the members of a list. -/
theorem foldl {α : Type} {change : Rehearsal → α → Rehearsal} (each : ∀ what, Outside (change · what)) :
    ∀ whats : List α, Outside fun rehearsal => whats.foldl change rehearsal := by
  intro whats
  induction whats with
  | nil => exact id
  | cons what rest ih => exact (each what).comp ih

/-- Nor does it change that. -/
theorem kept {change : Rehearsal → Rehearsal} (outside : Outside change) (rehearsal : Rehearsal) :
    (change rehearsal).inside = rehearsal.inside := by
  have same : change rehearsal = (change rehearsal).withInside rehearsal.inside :=
    outside.apart rehearsal rehearsal.inside
  rw [same]
  rfl

theorem give (identifier : String) (value : Json) : Outside fun rehearsal => rehearsal.give identifier value :=
  ⟨fun _ _ => rfl⟩

theorem perform (what : Occurrence) : Outside fun rehearsal => rehearsal.perform what := by
  cases what with
  | effects effects => exact ⟨fun _ _ => rfl⟩
  | answer identifier value => exact give identifier value

theorem schedule (delay : Option Nat) (what : Occurrence) : Outside fun rehearsal => rehearsal.schedule delay what := by
  cases delay with
  | none => exact perform what
  | some time => exact ⟨fun _ _ => rfl⟩

theorem giveFromPage (identifier code : String) :
    Outside fun rehearsal => rehearsal.giveFromPage identifier code := by
  refine ⟨fun rehearsal inside => ?_⟩
  simp only [Rehearsal.giveFromPage, withInside, World.withInside]
  split <;> rfl

theorem serve (identifier code : String) : Outside fun rehearsal => rehearsal.serve identifier code := by
  refine ⟨fun rehearsal inside => ?_⟩
  have replies : (rehearsal.withInside inside).replies = rehearsal.replies := rfl
  unfold Rehearsal.serve
  rw [replies]
  split
  · exact (giveFromPage identifier code).apart rehearsal inside
  · rfl
  next value delay twice _ =>
    have once := schedule delay (.answer identifier value)
    cases twice with
    | false => exact once.apart rehearsal inside
    | true => exact (once.comp once).apart rehearsal inside

theorem hear (message : Outbound) : Outside fun rehearsal => rehearsal.hear message := by
  cases message with
  | evalRequest identifier code =>
      refine ⟨fun rehearsal inside => ?_⟩
      have hasHost : (rehearsal.withInside inside).hasHost = rehearsal.hasHost := rfl
      simp only [Rehearsal.hear, hasHost]
      split
      · exact (serve identifier code).apart rehearsal inside
      · rfl
  | _ => exact id

theorem hearAll : Outside hearAll :=
  ⟨fun rehearsal inside => (foldl hear _).apart { rehearsal with seen := rehearsal.world.sent.length } inside⟩

theorem catchUp : Outside catchUp :=
  ⟨fun rehearsal inside =>
    (foldl perform _).apart { rehearsal with agenda := rehearsal.agenda.after rehearsal.world.clock } inside⟩

theorem atTime (clock : Nat) : Outside fun rehearsal => rehearsal.atTime clock := ⟨fun _ _ => rfl⟩

end Outside

end Rehearsal

/-! ## Rehearsals with similar engines -/

variable {similar : EngineState → EngineState → Prop}

namespace Rehearsal

def withEngine (rehearsal : Rehearsal) (engine : EngineState) : Rehearsal :=
  { rehearsal with world := { rehearsal.world with engine := engine } }

/-- Rehearsals that differ in no more than similar engines. -/
structure Alike (similar : EngineState → EngineState → Prop) (one two : Rehearsal) : Prop where
  engine : similar one.world.engine two.world.engine
  rest : two = one.withEngine two.world.engine

/-- What happens outside of flows has nothing to do with the engine. -/
theorem Outside.withEngine {change : Rehearsal → Rehearsal} (outside : Outside change) (rehearsal : Rehearsal)
    (engine : EngineState) : change (rehearsal.withEngine engine) = (change rehearsal).withEngine engine := by
  have memories : (change rehearsal).world.memories = rehearsal.world.memories :=
    congrArg Inside.memories (outside.kept rehearsal)
  exact (outside.apart rehearsal ⟨engine, rehearsal.world.memories⟩).trans (by rw [← memories]; rfl)

namespace Alike

variable {one two : Rehearsal}

theorem world (alike : one.Alike similar two) : one.world.Alike similar two.world :=
  ⟨alike.engine, congrArg Rehearsal.world alike.rest⟩

/-- What happens outside of flows happens to both rehearsals alike. -/
theorem keep (alike : one.Alike similar two) {change : Rehearsal → Rehearsal} (outside : Outside change) :
    (change one).Alike similar (change two) := by
  have kept : (change one).world.engine = one.world.engine := congrArg Inside.engine (outside.kept one)
  obtain ⟨engine, rest⟩ := alike
  generalize two.world.engine = other at engine rest
  subst rest
  rw [outside.withEngine]
  exact ⟨kept.symm ▸ engine, rfl⟩

theorem inWorld (alike : one.Alike similar two) {world other : World} (worlds : world.Alike similar other) :
    { one with world := world }.Alike similar { two with world := other } := by
  refine ⟨worlds.engine, ?_⟩
  rw [alike.rest, worlds.rest]
  rfl

end Alike

/-- What alike flows come to when they are played. -/
structure Matched (similar : EngineState → EngineState → Prop) {α : Type} (same : α → α → Prop)
    (one two : Option α × Rehearsal) : Prop where
  value : Option.Rel same one.1 two.1
  rehearsal : one.2.Alike similar two.2

/-- Alike flows are played alike: as often as they are taken further, they have come equally far. -/
theorem playFlow_alike {α : Type} {same : α → α → Prop} :
    ∀ (fuel : Nat) {one two : Rehearsal} {flow other : Flow α}, one.Alike similar two →
      Flow.Alike similar same flow other →
      Matched similar same (playFlow fuel one flow) (playFlow fuel two other) := by
  intro fuel
  induction fuel with
  | zero => exact fun alike _ => ⟨.none, alike⟩
  | succ fuel ih =>
      intro one two flow other alike flows
      have ran := flows.run alike.world
      unfold playFlow
      generalize flow.run one.world = result at ran ⊢
      generalize other.run two.world = result' at ran ⊢
      obtain ⟨flow, world⟩ := result
      obtain ⟨flow', world'⟩ := result'
      obtain ⟨flows, worlds⟩ := ran
      simp only at flows worlds ⊢
      have after := alike.inWorld worlds
      have heard := after.keep .hearAll
      have value := flows.value?
      have ready := flows.readyAt heard.world
      generalize flow.value? = ended at value ⊢
      generalize flow'.value? = ended' at value ⊢
      cases value with
      | some value => exact ⟨.some value, after⟩
      | none =>
          simp only
          generalize hearAll { one with world := world } = hearing at heard ready ⊢
          generalize hearAll { two with world := world' } = hearing' at heard ready ⊢
          have agenda : hearing'.agenda = hearing.agenda := by rw [heard.rest]; rfl
          rw [← ready, agenda, heard.world.clock, flows.nextDue]
          split
          · exact ih heard flows
          · split
            · exact ih (heard.keep .catchUp) flows
            · split
              · exact ih (heard.keep (.atTime _)) flows
              · exact ⟨.none, heard⟩

end Rehearsal

/-! ## Acts -/

inductive Act.Uniform (similar : EngineState → EngineState → Prop) {α : Type} : Act α → Prop where
  | flow {flow : Flow α} (alike : Flow.Alike similar Eq flow flow) : Uniform similar (.flow flow)
  | stage (act : Snapshot → α × Snapshot) : Uniform similar (.stage act)
  | together {acts : List (Act α)} (each : ∀ act ∈ acts, Uniform similar act)
      (gather : List (α × Nat) → α) : Uniform similar (.together acts gather)

namespace Act

variable {α : Type}

theorem timed_alike {flow other : Flow α} (alike : Flow.Alike similar Eq flow other) :
    Flow.Alike similar Eq flow.timed other.timed := by
  refine .andThen alike fun value value' same => ?_
  subst same
  exact .ask trivial fun time => .done rfl

theorem beginAll_alike {acts : List (Act α)}
    (each : ∀ act ∈ acts, Flow.RunAlike similar Eq (fun world => act.begin world) fun world => act.begin world) :
    ∀ {world other : World}, world.Alike similar other →
      List.Forall₂ (Flow.Alike similar Eq) (beginAll world acts).1 (beginAll other acts).1 ∧
        (beginAll world acts).2.Alike similar (beginAll other acts).2 := by
  induction acts with
  | nil => exact fun worlds => ⟨.nil, worlds⟩
  | cons act rest ih =>
      intro world other worlds
      have begun := each act List.mem_cons_self worlds
      have timed := (timed_alike begun.flow).run begun.world
      have others := ih (fun act member => each act (List.mem_cons_of_mem _ member)) timed.world
      exact ⟨.cons timed.flow others.1, others.2⟩

theorem Uniform.begins {act : Act α} (uniform : act.Uniform similar) :
    Flow.RunAlike similar Eq (fun world => act.begin world) fun world => act.begin world := by
  induction uniform with
  | flow alike => exact alike.run
  | stage act =>
      intro world other worlds
      have page : other.page = world.page := by rw [worlds.rest]
      simp only [Act.begin, page]
      exact ⟨.done rfl, worlds.keep (fun before => { before with page := (act world.page).2 })
        (fun _ _ => rfl) fun _ => rfl⟩
  | together _ gather ih =>
      intro world other worlds
      obtain ⟨flows, after⟩ := beginAll_alike ih worlds
      refine ⟨.andThen (.all flows) fun values values' same => ?_, after⟩
      rw [List.forall₂_eq_eq_eq] at same
      exact .pure (congrArg gather same)

end Act

namespace Rehearsal

variable {α : Type}

/-- Acts that came to the same. -/
structure Played.Matched (similar : EngineState → EngineState → Prop) (one two : Played α) : Prop where
  value : one.value = two.value
  posted : one.posted = two.posted
  after : one.after.Alike similar two.after

theorem stamped_alike {before before' after after' : World} (first : before.Alike similar before')
    (last : after.Alike similar after') : stamped World.sent before after = stamped World.sent before' after' := by
  rw [stamped, stamped, first.rest, last.rest]

theorem logged_alike {same : α → α → Prop} {one two : Rehearsal} {flow other : Flow α}
    (alike : one.Alike similar two) (flows : Flow.Alike similar same flow other) (fuel : Nat) :
    logged World.sent one flow fuel = logged World.sent two other fuel := by
  have moment := fun fuel => (playFlow_alike fuel alike flows).rehearsal.world
  induction fuel with
  | zero => rfl
  | succ fuel ih => rw [logged, logged, ih, stamped_alike (moment fuel) (moment (fuel + 1))]

/-- A uniform act comes to the same in alike rehearsals, as far as it is played. -/
theorem playWithin_alike {act : Act α} (uniform : act.Uniform similar) (fuel : Nat) {one two : Rehearsal}
    (alike : one.Alike similar two) : (playWithin fuel one act).Matched similar (playWithin fuel two act) := by
  have begun := uniform.begins alike.world
  have within := alike.inWorld begun.world
  have played := playFlow_alike fuel within begun.flow
  exact ⟨eq_of_rel played.value,
    congrArg₂ _ (stamped_alike alike.world begun.world) (logged_alike within begun.flow fuel),
    played.rehearsal⟩

/-- Uniform acts come to the same in alike rehearsals, as far as they are played. -/
theorem playEach_alike {acts : List (Nat × Act α)} (uniform : ∀ entry ∈ acts, entry.2.Uniform similar) :
    ∀ {one two : Rehearsal}, one.Alike similar two →
      List.Forall₂ (Played.Matched similar) (one.playEach acts) (two.playEach acts) := by
  induction acts with
  | nil => exact fun _ => .nil
  | cons entry rest ih =>
      intro one two alike
      have played := playWithin_alike (uniform entry List.mem_cons_self) entry.1 alike
      exact .cons played (ih (fun other member => uniform other (List.mem_cons_of_mem _ member)) played.after)

end Rehearsal

end ConsentBanner

import ConsentBanner.Proofs.Flow.Oblivious
import ConsentBanner.Proofs.Rehearsal.Alike
import ConsentBanner.Proofs.Rehearsal.Polling

/-!
# Rehearsals in step

Two rehearsals that differ in no more than what handlers remember, and a flow that is played in both: it is in step
if it comes to the same value in both, and the rehearsals still differ in no more than that.  A flow that does not ask
what is remembered is always in step (`Rehearsal.InStep.oblivious`); one that asks is in step if it goes on the same way
after what it is told (`Rehearsal.InStep.tells`).
-/

set_option autoImplicit false

namespace ConsentBanner

namespace Rehearsal

/-- The rehearsal in which handlers remember something else. -/
def withMemories (rehearsal : Rehearsal) (memories : Keyed Nat Memory) : Rehearsal :=
  { rehearsal with world := rehearsal.world.withMemories memories }

/-- What happens outside of flows has nothing to do with what handlers remember. -/
theorem Outside.withMemories {change : Rehearsal → Rehearsal} (outside : Outside change) (rehearsal : Rehearsal)
    (memories : Keyed Nat Memory) :
    change (rehearsal.withMemories memories) = (change rehearsal).withMemories memories := by
  have engine : (change rehearsal).world.engine = rehearsal.world.engine :=
    congrArg Inside.engine (outside.kept rehearsal)
  exact (outside.apart rehearsal ⟨rehearsal.world.engine, memories⟩).trans (by rw [← engine]; rfl)

variable {α β : Type}

/-- A flow that does not ask what is remembered is played the same way whatever that is. -/
theorem playFlow_withMemories (fuel : Nat) {alone : Bool} (memories : Keyed Nat Memory) :
    ∀ {flow : Flow α}, flow.Confined Request.IsOblivious alone → ∀ rehearsal : Rehearsal,
      playFlow fuel (rehearsal.withMemories memories) flow =
        ((playFlow fuel rehearsal flow).1, (playFlow fuel rehearsal flow).2.withMemories memories) := by
  induction fuel with
  | zero => exact fun _ _ => rfl
  | succ fuel ih =>
      intro flow confined rehearsal
      have rest := (flow.run_adequate rehearsal.world).runs.turns.confined confined
      have runs : flow.run (rehearsal.withMemories memories).world = _ :=
        confined.oblivious rehearsal.world memories
      rw [playFlow, playFlow, runs]
      generalize flow.run rehearsal.world = result at rest
      obtain ⟨moved, world⟩ := result
      have further := fun later => ih rest later
      have heard : hearAll { rehearsal.withMemories memories with world := world.withMemories memories } =
          (hearAll { rehearsal with world := world }).withMemories memories :=
        Outside.hearAll.withMemories { rehearsal with world := world } memories
      simp only [heard]
      generalize hearAll { rehearsal with world := world } = heard
      have ready : moved.readyAt (heard.withMemories memories).world = moved.readyAt heard.world :=
        moved.readyAt_withMemories heard.world memories
      have clock : (heard.withMemories memories).world.clock = heard.world.clock := rfl
      have agenda : (heard.withMemories memories).agenda = heard.agenda := rfl
      rw [ready, clock, agenda, Outside.catchUp.withMemories]
      cases moved.value? with
      | some value => rfl
      | none =>
        simp only
        split
        · exact further heard
        · split
          · exact further heard.catchUp
          · split
            · exact further (heard.atTime _)
            · rfl

/-- Rehearsals that differ in no more than what handlers remember. -/
def Resembles (one two : Rehearsal) : Prop := two = one.withMemories two.world.memories

/-- A flow comes to the same value in both rehearsals, which resemble each other afterwards and end as they should. -/
def InStep (one two : Rehearsal) (flow : Flow α) (ends : α → Rehearsal → Rehearsal → Prop) : Prop :=
  ∃ value last final, one.ComesTo flow value last ∧ two.ComesTo flow value final ∧ last.Resembles final ∧
    ends value last final

variable {one two : Rehearsal} {flow : Flow α} {f : α → Flow β}

theorem comesTo_withMemories {value : α} {last : Rehearsal} {alone : Bool}
    (confined : flow.Confined Request.IsOblivious alone) (comes : one.ComesTo flow value last)
    (memories : Keyed Nat Memory) : (one.withMemories memories).ComesTo flow value (last.withMemories memories) := by
  obtain ⟨enough, plays⟩ := comes
  refine ⟨enough, fun fuel fits => ?_⟩
  rw [playFlow_withMemories fuel memories confined, plays fuel fits]

namespace InStep

variable {ends : α → Rehearsal → Rehearsal → Prop}

theorem done {value : α} (resembles : one.Resembles two) (ending : ends value one two) :
    one.InStep two (.done value) ends := ⟨value, one, two, comesTo_done, comesTo_done, resembles, ending⟩

theorem ite {condition : Prop} [Decidable condition] {other : Flow α} (yes : one.InStep two flow ends)
    (no : one.InStep two other ends) : one.InStep two (if condition then flow else other) ends := by
  split
  · exact yes
  · exact no

theorem andThen {between : α → Rehearsal → Rehearsal → Prop} {ends : β → Rehearsal → Rehearsal → Prop}
    (first : one.InStep two flow between)
    (onward : ∀ value {last final : Rehearsal}, last.Resembles final → between value last final →
      last.InStep final (f value) ends) : one.InStep two (flow >>= f) ends := by
  obtain ⟨value, last, final, comes, comes', resembles, middle⟩ := first
  obtain ⟨result, last', final', goes, goes', resembles', ending⟩ := onward value resembles middle
  exact ⟨result, last', final', comes.chain goes, comes'.chain goes', resembles', ending⟩

theorem weaken {between : α → Rehearsal → Rehearsal → Prop} (inStep : one.InStep two flow between)
    (enough : ∀ value last final, between value last final → ends value last final) :
    one.InStep two flow ends := by
  obtain ⟨value, last, final, comes, comes', resembles, middle⟩ := inStep
  exact ⟨value, last, final, comes, comes', resembles, enough value last final middle⟩

/-- A flow that is alone and does not ask what is remembered leaves that as it is on both sides. -/
theorem oblivious (resembles : one.Resembles two) (confined : flow.Confined Request.IsOblivious true) :
    one.InStep two flow fun _ last final => ∀ slot, last.world.memory slot = one.world.memory slot ∧
      final.world.memory slot = two.world.memory slot := by
  obtain ⟨value, last, enough, plays, -⟩ := plays one confined
  have comes : one.ComesTo flow value last := ⟨enough, plays⟩
  have kept : last = last.withMemories one.world.memories :=
    (comes.unique (comesTo_withMemories confined comes one.world.memories)).2
  refine ⟨value, last, last.withMemories two.world.memories, comes, ?_, rfl, fun slot => ⟨?_, rfl⟩⟩
  · rw [resembles]
    exact comesTo_withMemories confined comes two.world.memories
  · rw [kept]
    rfl

/-- A glance is over at once on both sides, with what it comes to on the page, which is the same. -/
theorem glance {glance : Flow α} {value : α} {ends : β → Rehearsal → Rehearsal → Prop} (resembles : one.Resembles two)
    (isGlance : glance.IsGlance) (comes : glance.consult (.ofSnapshot one.world.page) = some value)
    (onward : one.InStep two (f value) ends) : one.InStep two (glance >>= f) ends := by
  obtain ⟨result, last, final, goes, goes', resembles', ending⟩ := onward
  have page : two.world.page = one.world.page := by
    rw [resembles]
    rfl
  have sees : one.ComesTo glance value one := comesTo_of_run (isGlance.run comes)
  have sees' : two.ComesTo glance value two := comesTo_of_run (isGlance.run (page ▸ comes))
  exact ⟨result, last, final, sees.chain goes, sees'.chain goes', resembles', ending⟩

/-- What is remembered is asked for, and makes no difference. -/
theorem tells {slot : Nat} {f : Memory → Flow α} (same : f (two.world.memory slot) = f (one.world.memory slot))
    (onward : one.InStep two (f (one.world.memory slot)) ends) : one.InStep two (memoryOf slot >>= f) ends := by
  obtain ⟨value, last, final, comes, comes', resembles, ending⟩ := onward
  have asks : ∀ rehearsal : Rehearsal, rehearsal.ComesTo (memoryOf slot) (rehearsal.world.memory slot) rehearsal :=
    fun rehearsal => comesTo_of_run rfl
  exact ⟨value, last, final, (asks one).chain comes, (asks two).chain (same ▸ comes'), resembles, ending⟩

theorem learn (resembles : one.Resembles two) (slot : Nat) (change : Memory → Memory) :
    one.InStep two (remember slot change) fun _ last final =>
      last.world.memory slot = change (one.world.memory slot) ∧
        final.world.memory slot = change (two.world.memory slot) := by
  refine ⟨(), _, _, comesTo_of_run rfl, comesTo_of_run rfl, ?_, ?_, ?_⟩
  · have same : ∀ memories, two.withMemories memories = (one.withMemories two.world.memories).withMemories memories :=
      fun memories => congrArg (withMemories · memories) resembles
    exact same _
  · simp [World.memory, Keyed.get?_put_self]
  · simp [World.memory, Keyed.get?_put_self]

/-- What is done without asking what is remembered leaves a part of that as alike as it was. -/
theorem keeps {κ : Type} (part : Memory → κ) (slot : Nat) (resembles : one.Resembles two)
    (alike : part (one.world.memory slot) = part (two.world.memory slot))
    (confined : flow.Confined Request.IsOblivious true) : one.InStep two flow fun _ last final =>
      part (last.world.memory slot) = part (final.world.memory slot) :=
  (oblivious resembles confined).weaken fun _ _ _ kept => by rwa [(kept slot).1, (kept slot).2]

theorem notes {κ : Type} (part : Memory → κ) (slot : Nat) {change : Memory → Memory} (resembles : one.Resembles two)
    (noted : ∀ memory other, part (change memory) = part (change other)) :
    one.InStep two (remember slot change) fun _ last final =>
      part (last.world.memory slot) = part (final.world.memory slot) :=
  (learn resembles slot change).weaken fun _ _ _ learned => by
    rw [learned.1, learned.2]
    exact noted _ _

end InStep

end Rehearsal

end ConsentBanner

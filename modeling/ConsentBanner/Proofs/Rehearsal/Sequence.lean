import ConsentBanner.Proofs.Flow.Running
import ConsentBanner.Proofs.Rehearsal.Playing

/-!
# Playing flows in sequence

A flow that goes on as another one is played like the first and then like the second.  What a flow came
to when it was played it came to by its turns.
-/

set_option autoImplicit false

namespace ConsentBanner.Rehearsal

variable {α β : Type} {rehearsal last : Rehearsal} {flow : Flow α}

theorem Proceeds.ofBind {f : α → Flow β} {heard later : Rehearsal} (pending : flow.value? = none)
    (proceeds : Proceeds heard (flow.bind f) later) : Proceeds heard flow later := by
  cases proceeds with
  | ready ready => exact .ready (Flow.readyAt_bind heard.world pending ▸ ready)
  | due waits due => exact .due (Flow.readyAt_bind heard.world pending ▸ waits) due
  | time waits idle next =>
      rw [Flow.nextDue_bind pending] at next
      exact .time (Flow.readyAt_bind heard.world pending ▸ waits) idle next

theorem playFlow_turns {fuel : Nat} {value : α} (played : playFlow fuel rehearsal flow = (some value, last)) :
    flow.Turns rehearsal.world.ledger (.done value) last.world.ledger := by
  induction fuel generalizing rehearsal flow with
  | zero => cases played
  | succ fuel ih =>
      have turns := (flow.run_adequate rehearsal.world).runs.turns
      generalize runs : flow.run rehearsal.world = result at turns
      obtain ⟨moved, world⟩ := result
      rcases playFlow_cases runs played with ⟨rfl, rfl⟩ | ⟨-, later, proceeds, played⟩
      · exact turns
      · have rest := ih played
        rw [proceeds.kept.ledger] at rest
        exact turns.trans rest

/-- At any moment before a flow is done, it has taken turns and the others are still to come. -/
theorem playFlow_between {spent fuel : Nat} {outcome : Option α} {value : α} {moment : Rehearsal}
    (within : spent ≤ fuel) (early : playFlow spent rehearsal flow = (outcome, moment))
    (played : playFlow fuel rehearsal flow = (some value, last)) :
    ∃ moved, flow.Turns rehearsal.world.ledger moved moment.world.ledger ∧
      moved.Turns moment.world.ledger (.done value) last.world.ledger := by
  induction spent generalizing rehearsal flow fuel with
  | zero =>
      obtain ⟨-, rfl⟩ := Prod.mk.inj early
      exact ⟨flow, .refl _ _, playFlow_turns played⟩
  | succ spent ih =>
      obtain ⟨fuel, rfl⟩ := Nat.exists_eq_add_of_le' (Nat.le_trans (Nat.le_add_left 1 spent) within)
      have turns := (flow.run_adequate rehearsal.world).runs.turns
      generalize runs : flow.run rehearsal.world = result at turns
      obtain ⟨moved, world⟩ := result
      rcases playFlow_cases runs played with ⟨rfl, rfl⟩ | ⟨pending, later, proceeds, played⟩
      · simp only [playFlow, runs, Flow.value?, Prod.mk.injEq] at early
        obtain ⟨-, rfl⟩ := early
        exact ⟨_, turns, .refl _ _⟩
      · rw [proceeds.play runs pending] at early
        obtain ⟨after, before, rest⟩ := ih (Nat.le_of_succ_le_succ within) early played
        rw [proceeds.kept.ledger] at before
        exact ⟨after, turns.trans before, rest⟩

/-- What is kept while a flow is played: by its runs, by what happens around it, and while it sleeps. -/
structure PlayKeeps (known : World → Flow α → Prop) : Prop where
  run : ∀ {world flow}, known world flow → known (flow.run world).2 (flow.run world).1
  aside : ∀ {world after flow}, known world flow → after.ledger = world.ledger →
    after.clock = world.clock → known after flow
  sleep : ∀ {world after flow}, known world flow → after.ledger = world.ledger →
    (∃ heard, flow.readyAt heard = none) → (∀ due, flow.nextDue = some due → after.clock ≤ due) →
    known after flow

theorem PlayKeeps.play {known : World → Flow α → Prop} (keeps : PlayKeeps known) {fuel : Nat} {value : α}
    (played : playFlow fuel rehearsal flow = (some value, last)) (knows : known rehearsal.world flow) :
    known last.world (.done value) := by
  induction fuel generalizing rehearsal flow with
  | zero => cases played
  | succ fuel ih =>
      have ran := keeps.run knows
      generalize runs : flow.run rehearsal.world = result at ran
      obtain ⟨moved, world⟩ := result
      rcases playFlow_cases runs played with ⟨rfl, rfl⟩ | ⟨-, later, proceeds, played⟩
      · exact ran
      · have kept := proceeds.kept
        refine ih played ?_
        rcases kept.clock with same | ⟨rests, inTime⟩
        · exact keeps.aside ran kept.ledger same
        · exact keeps.sleep ran kept.ledger rests inTime

theorem playFlow_more {fuel more : Nat} {value : α} (within : fuel ≤ more)
    (played : playFlow fuel rehearsal flow = (some value, last)) :
    playFlow more rehearsal flow = (some value, last) := by
  induction fuel generalizing rehearsal flow more with
  | zero => cases played
  | succ fuel ih =>
      obtain ⟨more, rfl⟩ := Nat.exists_eq_add_of_le' (Nat.le_trans (Nat.le_add_left 1 fuel) within)
      generalize runs : flow.run rehearsal.world = result
      obtain ⟨moved, world⟩ := result
      rcases playFlow_cases runs played with ⟨rfl, rfl⟩ | ⟨pending, later, proceeds, played⟩
      · simp only [playFlow, runs, Flow.value?]
      · rw [proceeds.play runs pending]
        exact ih (Nat.le_of_succ_le_succ within) played

theorem playFlow_bind {f : α → Flow β} {fuel : Nat} {value : β}
    (played : playFlow fuel rehearsal (flow.bind f) = (some value, last)) :
    ∃ between middle rest, playFlow fuel rehearsal flow = (some between, middle) ∧
      playFlow rest middle (f between) = (some value, last) := by
  induction fuel generalizing rehearsal flow with
  | zero => cases played
  | succ fuel ih =>
      generalize runs : flow.run rehearsal.world = result
      obtain ⟨moved, world⟩ := result
      have both : (flow.bind f).run rehearsal.world = Flow.andThen f (moved, world) :=
        runs ▸ flow.run_bind f rehearsal.world
      cases pending : moved.value? with
      | some between =>
          refine ⟨between, { rehearsal with world := world }, fuel + 1, ?_, ?_⟩
          · simp only [playFlow, runs, pending]
          · have onward : (flow.bind f).run rehearsal.world = (f between).run world := by
              rw [both, Flow.andThen]
              simp only [pending]
            rw [← played]
            simp only [playFlow, onward]
      | none =>
          have onward : (flow.bind f).run rehearsal.world = (moved.bind f, world) := by
            rw [both, Flow.andThen]
            simp only [pending]
          rcases playFlow_cases onward played with ⟨done, -⟩ | ⟨-, later, proceeds, played⟩
          · have stillPending := Flow.value?_bind (f := f) pending
            rw [done] at stillPending
            cases stillPending
          · obtain ⟨between, middle, rest, first, second⟩ := ih played
            exact ⟨between, middle, rest, ((proceeds.ofBind pending).play runs pending fuel).trans first, second⟩

end ConsentBanner.Rehearsal

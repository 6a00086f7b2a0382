import ConsentBanner.Proofs.Rehearsal.Outlook

/-!
# Polling in rehearsals

Whatever is asked, polling makes rounds: an attempt, and after a pause the next one, until the answer is yes or no
attempt is left (`Rehearsal.comesTo_poll`).  Where an attempt takes no time, the rounds begin at regular moments.
Where it only reads the page, these moments and the page that is seen at them are all that counts (`Flow.Polls`).
-/

set_option autoImplicit false

namespace ConsentBanner

namespace Rehearsal

variable {α β : Type} {rehearsal start middle last : Rehearsal} {flow : Flow α} {value : α}

/-! ## Flows in sequence -/

theorem ComesTo.ofPlayed {fuel : Nat} (played : rehearsal.playFlow fuel flow = (some value, last)) :
    rehearsal.ComesTo flow value last := ⟨fuel, fun _ fits => playFlow_more fits played⟩

/-- A flow is played to one end. -/
theorem ComesTo.unique {other : α} {final : Rehearsal} (one : rehearsal.ComesTo flow value last)
    (two : rehearsal.ComesTo flow other final) : value = other ∧ last = final := by
  obtain ⟨enough, first⟩ := one
  obtain ⟨plenty, second⟩ := two
  have same := (first _ (Nat.le_max_left enough plenty)).symm.trans (second _ (Nat.le_max_right enough plenty))
  obtain ⟨is, ends⟩ := Prod.mk.inj same
  exact ⟨Option.some.inj is, ends⟩

theorem comesTo_done : rehearsal.ComesTo (.done value) value rehearsal := by
  refine .ofPlayed (show playFlow 1 rehearsal (.done value) = _ from ?_)
  rfl

theorem Proceeds.toBind {f : α → Flow β} {heard later : Rehearsal} (pending : flow.value? = none)
    (proceeds : Proceeds heard flow later) : Proceeds heard (flow.bind f) later := by
  cases proceeds with
  | ready ready => exact .ready ((Flow.readyAt_bind heard.world pending).symm ▸ ready)
  | due waits due => exact .due ((Flow.readyAt_bind heard.world pending).trans waits) due
  | time waits idle next =>
      exact .time ((Flow.readyAt_bind heard.world pending).trans waits) idle (by rw [Flow.nextDue_bind pending, next])

/-- A flow is played, and then the one that follows. -/
theorem ComesTo.chain {f : α → Flow β} {result : β} (first : rehearsal.ComesTo flow value middle)
    (onward : middle.ComesTo (f value) result last) : rehearsal.ComesTo (flow.bind f) result last := by
  obtain ⟨fuel, plays⟩ := first
  have played := plays fuel (Nat.le_refl fuel)
  clear plays
  -- The flow that follows begins in the turn in which the first one ends; in all turns before it is only carried along.
  induction fuel generalizing rehearsal flow with
  | zero => cases played
  | succ fuel ih =>
      generalize runs : flow.run rehearsal.world = result at played
      obtain ⟨moved, world⟩ := result
      have both : (flow.bind f).run rehearsal.world = Flow.andThen f (moved, world) :=
        runs ▸ flow.run_bind f rehearsal.world
      rcases playFlow_cases runs played with ⟨rfl, rfl⟩ | ⟨pending, later, proceeds, rest⟩
      · exact .ofRun both onward
      · have goesOn : (flow.bind f).run rehearsal.world = (moved.bind f, world) := by
          rw [both, Flow.andThen]
          simp only [pending]
        refine .ofPlay (fun more => ?_) (ih rest)
        exact (proceeds.toBind pending).play goesOn (Flow.value?_bind pending) more

theorem comesTo_bind {f : α → Flow β} {result : β} : rehearsal.ComesTo (flow.bind f) result last ↔
    ∃ value middle, rehearsal.ComesTo flow value middle ∧ middle.ComesTo (f value) result last := by
  constructor
  · rintro ⟨fuel, plays⟩
    obtain ⟨value, middle, rest, first, second⟩ := playFlow_bind (plays fuel (Nat.le_refl fuel))
    exact ⟨value, middle, .ofPlayed first, .ofPlayed second⟩
  · rintro ⟨value, middle, first, second⟩
    exact first.chain second

/-- Where the first of two flows in sequence has come to its end, only the second one counts. -/
theorem ComesTo.onward {f : α → Flow β} {result : β} (first : rehearsal.ComesTo flow value middle) :
    rehearsal.ComesTo (flow.bind f) result last ↔ middle.ComesTo (f value) result last := by
  constructor
  · intro plays
    obtain ⟨other, between, again, second⟩ := comesTo_bind.mp plays
    obtain ⟨rfl, rfl⟩ := first.unique again
    exact second
  · exact first.chain

theorem comesTo_done_iff {other : α} :
    rehearsal.ComesTo (.done value) other last ↔ other = value ∧ last = rehearsal := by
  constructor
  · intro comes
    obtain ⟨same, ends⟩ := comesTo_done.unique comes
    exact ⟨same.symm, ends.symm⟩
  · rintro ⟨rfl, rfl⟩
    exact comesTo_done

/-- What is over at once takes no time. -/
theorem comesTo_of_run {world : World} (runs : flow.run rehearsal.world = (.done value, world)) :
    rehearsal.ComesTo flow value { rehearsal with world := world } :=
  .ofRun (show _ = (Flow.done value).run world from runs) comesTo_done

theorem ComesTo.paused {time : Nat} (comes : rehearsal.ComesTo (Flow.pause time) () last) :
    last.world.clock = rehearsal.world.clock + time ∧ rehearsal.Passes last := by
  have watchful : (Flow.pause time).Watchful := .sleep (.done ())
  obtain ⟨⟨⟩, other, plays, ends, passes⟩ := watchful.comesTo rehearsal
  obtain ⟨-, rfl⟩ := comes.unique plays
  exact ⟨(Prod.mk.inj (Option.some.inj ends)).2.symm, passes⟩

/-! ## Rounds -/

/-- An attempt that was made. -/
structure Round where
  before : Rehearsal
  answer : Bool
  after : Rehearsal

/-- The rounds of polling: some in vain, and a last one.  The first begins at once and each other one after a pause,
and if the last answer is no, no attempt is left. -/
inductive Polled (attempt : Flow Bool) (interval : Nat) : Nat → Rehearsal → List Round → Round → Prop where
  | ended {retries : Nat} {start last : Rehearsal} {answer : Bool} (asks : start.ComesTo attempt answer last)
      (spent : answer = false → retries = 0) : Polled attempt interval retries start [] ⟨start, answer, last⟩
  | again {retries : Nat} {start after middle : Rehearsal} {vain : List Round} {final : Round}
      (asks : start.ComesTo attempt false after) (pauses : after.ComesTo (Flow.pause interval) () middle)
      (rest : Polled attempt interval retries middle vain final) :
      Polled attempt interval (retries + 1) start (⟨start, false, after⟩ :: vain) final

namespace Polled

variable {attempt : Flow Bool} {interval retries : Nat} {vain : List Round} {final : Round}

theorem within (rounds : Polled attempt interval retries start vain final) : vain.length ≤ retries := by
  induction rounds with
  | ended _ _ => exact Nat.zero_le _
  | again _ _ _ ih => exact Nat.succ_le_succ ih

theorem spent (rounds : Polled attempt interval retries start vain final) (no : final.answer = false) :
    vain.length = retries := by
  induction rounds with
  | ended _ spent => exact (spent no).symm
  | again _ _ _ ih => exact congrArg Nat.succ (ih no)

theorem inVain (rounds : Polled attempt interval retries start vain final) :
    ∀ round ∈ vain, round.answer = false := by
  induction rounds with
  | ended _ _ => exact List.forall_mem_nil _
  | again _ _ _ ih => exact List.forall_mem_cons.mpr ⟨rfl, ih⟩

/-- What is over at once comes to what it is run to, and takes no time. -/
theorem ran {answer : Bool} (instant : ∀ world, ∃ answer after, attempt.run world = (.done answer, after))
    (comes : start.ComesTo attempt answer last) :
    attempt.run start.world = (.done answer, last.world) ∧ last.world.clock = start.world.clock := by
  obtain ⟨other, world, runs⟩ := instant start.world
  obtain ⟨rfl, rfl⟩ := (comesTo_of_run runs).unique comes
  have clock := attempt.run_clock start.world
  rw [runs] at clock
  exact ⟨runs, clock⟩

/-- Where an attempt is over at once, the rounds begin at regular moments. -/
theorem moments (rounds : Polled attempt interval retries start vain final)
    (instant : ∀ world, ∃ answer after, attempt.run world = (.done answer, after)) :
    ∀ place round, (vain ++ [final])[place]? = some round →
      round.before.world.clock = start.world.clock + place * interval ∧
        attempt.run round.before.world = (.done round.answer, round.after.world) ∧
        round.after.world.clock = round.before.world.clock := by
  induction rounds with
  | ended asks _ =>
      intro place round is
      cases place with
      | succ place => cases is
      | zero =>
          cases is
          exact ⟨by simp, ran instant asks⟩
  | @again retries start after middle vain final asks pauses _ ih =>
      intro place round is
      obtain ⟨runs, clock⟩ := ran instant asks
      cases place with
      | zero =>
          cases is
          exact ⟨by simp, runs, clock⟩
      | succ place =>
          obtain ⟨moment, others⟩ := ih place round is
          refine ⟨?_, others⟩
          rw [moment, pauses.paused.1, clock, Flow.moment_succ]

end Polled

/-- Polling makes its rounds, and comes to the last answer. -/
theorem comesTo_poll {attempt : Flow Bool} {interval : Nat} (retries : Nat) :
    ∀ {start last : Rehearsal} {answer : Bool}, start.ComesTo (Flow.poll attempt interval retries) answer last ↔
      ∃ vain final, Polled attempt interval retries start vain final ∧ final.answer = answer ∧
        final.after = last := by
  induction retries with
  | zero =>
      intro start last answer
      constructor
      · intro comes
        exact ⟨[], ⟨start, answer, last⟩, .ended comes fun _ => rfl, rfl, rfl⟩
      · rintro ⟨vain, final, rounds, rfl, rfl⟩
        cases rounds with
        | ended asks _ => exact asks
  | succ retries ih =>
      intro start last answer
      rw [Flow.poll, comesTo_bind]
      constructor
      · rintro ⟨yes, after, asks, onward⟩
        cases yes with
        | true =>
            obtain ⟨rfl, rfl⟩ := comesTo_done_iff.mp onward
            exact ⟨[], ⟨start, true, last⟩, .ended asks (fun no => by cases no), rfl, rfl⟩
        | false =>
            obtain ⟨⟨⟩, middle, pauses, rest⟩ := comesTo_bind.mp (show after.ComesTo
              ((Flow.pause interval).bind fun _ => Flow.poll attempt interval retries) answer last from onward)
            obtain ⟨vain, final, rounds, ends⟩ := ih.mp rest
            exact ⟨⟨start, false, after⟩ :: vain, final, .again asks pauses rounds, ends⟩
      · rintro ⟨vain, final, rounds, rfl, rfl⟩
        cases rounds with
        | @ended _ _ last answer asks spent =>
            cases answer with
            | true => exact ⟨true, last, asks, comesTo_done⟩
            | false => cases spent rfl
        | @again _ _ after middle rest _ asks pauses rounds =>
            have onward : after.ComesTo ((Flow.pause interval).bind fun _ => Flow.poll attempt interval retries)
                final.answer final.after := pauses.chain (ih.mpr ⟨rest, final, rounds, rfl, rfl⟩)
            exact ⟨false, after, asks, onward⟩

end Rehearsal

/-! ## Polling the page -/

namespace Flow

variable {α : Type}

/-- A flow asks the page at regular moments, beginning at once, until the answer is yes or no moment is left.  It does
nothing else, and what it comes to depends on the last answer alone.  So it is for all pages, whatever becomes of
them meanwhile, and wherever it is played. -/
structure Polls (flow : Flow α) (value : Bool → α) (yes : FixedPage → Bool) (interval retries : Nat) : Prop where
  reads : flow.Watchful
  watched : ∀ (pages : Timeline) (begin : Nat), ∃ answer time, flow.watch pages begin = some (value answer, time) ∧
    EndsPolling (fun moment => yes (pages moment)) begin interval retries answer time
  played : ∀ start : Rehearsal, ∃ answer last, start.ComesTo flow (value answer) last ∧ start.Passes last ∧
    EndsPolling (fun moment => yes (start.pages moment)) start.world.clock interval retries answer last.world.clock

theorem IsGlance.polls {attempt : Flow Bool} (glance : attempt.IsGlance) {yes : FixedPage → Bool}
    (asks : ∀ page, attempt.consult page = some (yes page)) (value : Bool → α) (interval retries : Nat) :
    Polls ((poll attempt interval retries).bind fun answer => .done (value answer)) value yes interval retries := by
  have reads : ((poll attempt interval retries).bind fun answer => .done (value answer)).Watchful :=
    .bind (.poll interval (.ofGlance glance) retries) fun answer => .done (value answer)
  have watched : ∀ (pages : Timeline) (begin : Nat), ∃ answer time,
      ((poll attempt interval retries).bind fun answer => .done (value answer)).watch pages begin =
        some (value answer, time) ∧
      EndsPolling (fun moment => yes (pages moment)) begin interval retries answer time := by
    intro pages begin
    have attempts : ∀ now, attempt.watch pages now = some (yes (pages now), now) := fun now =>
      glance.watch (asks (pages now))
    obtain ⟨answer, time, ends, law⟩ := watch_poll attempts interval retries begin
    refine ⟨answer, time, ?_, law⟩
    rw [watch_bind, ends]
    rfl
  refine ⟨reads, watched, fun start => ?_⟩
  obtain ⟨result, last, comes, ends, passes⟩ := reads.comesTo start
  obtain ⟨answer, time, is, law⟩ := watched start.pages start.world.clock
  obtain ⟨rfl, rfl⟩ := Prod.mk.inj (Option.some.inj (ends.symm.trans is))
  exact ⟨answer, last, comes, passes, law⟩

end Flow

end ConsentBanner

import ConsentBanner.Proofs.Engine.Roster
import ConsentBanner.Proofs.Engine.Schedule
import ConsentBanner.Proofs.Engine.Steady
import ConsentBanner.Proofs.Rehearsal.Sequence
import ConsentBanner.Engine.Run

/-!
# Whose dialog shows first

Every scripted candidate comes to true at a time of its own, or never, whatever the others do meanwhile.
While the race goes on, nobody is confirmed before the first of these times, and whoever is confirmed
then is among those whose time it is.
-/

set_option autoImplicit false

namespace ConsentBanner.Engine

open Flow (Lasts)

/-- What a candidate does when the wait for its dialog is over. -/
def told (url : String) (handler : Handler) (yes : Bool) : Flow Bool := do
  if yes then
    confirm handler url
    return true
  else return false

/-- Nobody comes to true before this candidate. -/
def IsFirst (candidates : List Handler) (fate : Handler → Option Nat) (handler : Handler) : Prop :=
  handler ∈ candidates ∧ ∃ time, fate handler = some time ∧
    ∀ other ∈ candidates, ∀ later, fate other = some later → time ≤ later

variable {url : String} {candidates : List Handler} {fate : Handler → Option Nat}

/-- A candidate with its lane waits for its time, or its wait is over. -/
inductive OnCourse (url : String) (fate : Handler → Option Nat) (world : World) :
    Handler × Flow Bool → Prop where
  | waits {handler : Handler} {moved : Flow Bool} {yes : Bool} {last count : Nat}
      (meets : Meets (fate handler) yes last)
      (lasts : Lasts (handler.call .popup) moved world.clock (world.callsOf (handler.call .popup)) yes
        last count) : OnCourse url fate world (handler, moved.bind (told url handler))
  | ended {handler : Handler} {yes : Bool}
      (met : (fate handler).isSome = true → world.engine.found.isSome = true) :
      OnCourse url fate world (handler, .done yes)

/-- What is found true of the race at any time. -/
structure Contest (url : String) (candidates : List Handler) (fate : Handler → Option Nat)
    (entrants : List (Handler × Flow Bool)) (world : World) : Prop where
  course : ∀ entrant ∈ entrants, OnCourse url fate world entrant
  known : ∀ entrant ∈ entrants, entrant.1 ∈ candidates
  apart : (entrants.map fun entrant => entrant.1.slot).Nodup
  first : ∀ handler, world.engine.found = some handler → IsFirst candidates fate handler
  unmet : world.engine.found = none → ∀ handler ∈ candidates, (fate handler).isSome = true →
    handler ∈ entrants.map Prod.fst

theorem OnCourse.aside {world after : World} {entrant : Handler × Flow Bool}
    (course : OnCourse url fate world entrant) (clock : after.clock = world.clock)
    (looks : after.callsOf (entrant.1.call .popup) = world.callsOf (entrant.1.call .popup))
    (found : world.engine.found.isSome = true → after.engine.found.isSome = true) :
    OnCourse url fate after entrant := by
  cases course with
  | waits meets lasts =>
      rw [← clock, ← looks] at lasts
      exact .waits meets lasts
  | ended met => exact .ended fun isSome => found (met isSome)

/-- What the run of a candidate's lane does to the others. -/
structure LaneRan (fate : Handler → Option Nat) (handler : Handler) (before after : World) : Prop where
  looks : ∀ call : HandlerCall, call.Apart (handler.call .popup) → after.callsOf call = before.callsOf call
  found : after.engine.found = before.engine.found ∨
    before.engine.found = none ∧ after.engine.found = some handler ∧ fate handler = some before.clock

theorem OnCourse.run {world : World} {handler : Handler} {lane : Flow Bool}
    (course : OnCourse url fate world (handler, lane)) :
    OnCourse url fate (lane.run world).2 (handler, (lane.run world).1) ∧
      LaneRan fate handler world (lane.run world).2 := by
  cases course with
  | ended met => exact ⟨.ended met, fun _ _ => rfl, .inl rfl⟩
  | @waits _ moved yes last count meets lasts =>
      have clock := moved.run_clock world
      rw [Flow.run_bind]
      generalize runs : moved.run world = result at clock
      obtain ⟨onward, after⟩ := result
      obtain ⟨lasting, aside⟩ := lasts.run world rfl rfl runs
      have found : after.engine.found = world.engine.found := congrArg EngineState.found aside.engine
      cases value : onward.value? with
      | none =>
          simp only [Flow.andThen, value]
          rw [← clock] at lasting
          exact ⟨.waits meets lasting, aside.others, .inl found⟩
      | some value' =>
          obtain rfl := Flow.value?_eq_some.mp value
          obtain ⟨rfl, isLast⟩ := lasting.ofDone
          simp only [Flow.andThen, value]
          cases value' with
          | false =>
              refine ⟨.ended fun isSome => ?_, aside.others, .inl found⟩
              rw [show fate handler = none from meets] at isSome
              cases isSome
          | true =>
              have confirmed : (after.engine.confirm handler).found = some (after.engine.found.getD handler) :=
                EngineState.found_confirm after.engine handler
              have onTime : fate handler = some world.clock := isLast ▸ meets
              refine ⟨.ended fun _ => Option.isSome_iff_exists.mpr ⟨_, confirmed⟩, aside.others, ?_⟩
              rw [found] at confirmed
              cases held : world.engine.found with
              | some first =>
                  rw [held] at confirmed
                  exact .inl confirmed
              | none =>
                  rw [held] at confirmed
                  exact .inr ⟨rfl, confirmed, onTime⟩

/-- Where nobody is confirmed yet, no candidate's time has passed. -/
theorem Contest.early {entrants : List (Handler × Flow Bool)} {world : World}
    (contest : Contest url candidates fate entrants world) (unfound : world.engine.found = none)
    {handler : Handler} (candidate : handler ∈ candidates) {time : Nat} (due : fate handler = some time) :
    world.clock ≤ time := by
  obtain ⟨⟨other, lane⟩, member, same⟩ :=
    List.mem_map.mp (contest.unmet unfound handler candidate (by rw [due]; rfl))
  obtain rfl : other = handler := same
  cases contest.course _ member with
  | waits meets lasts =>
      rw [Meets, due] at meets
      split at meets
      · obtain rfl := Option.some.inj meets
        exact lasts.late
      · cases meets
  | ended met =>
      have found := met (by rw [due]; rfl)
      rw [unfound] at found
      cases found

theorem Contest.lane {ahead behind : List (Handler × Flow Bool)} {handler : Handler} {lane : Flow Bool}
    {world : World} (contest : Contest url candidates fate (ahead ++ (handler, lane) :: behind) world) :
    Contest url candidates fate (ahead ++ (handler, (lane.run world).1) :: behind) (lane.run world).2 := by
  have self : (handler, lane) ∈ ahead ++ (handler, lane) :: behind := by simp
  obtain ⟨course, ran⟩ := (contest.course _ self).run
  have clock := lane.run_clock world
  have candidate := contest.known _ self
  have stays : world.engine.found.isSome = true → (lane.run world).2.engine.found.isSome = true := by
    intro found
    rcases ran.found with same | ⟨unfound, -⟩
    · rw [same]
      exact found
    · rw [unfound] at found
      cases found
  have names : (ahead ++ (handler, (lane.run world).1) :: behind).map Prod.fst =
      (ahead ++ (handler, lane) :: behind).map Prod.fst := by simp
  have others : ∀ entrant ∈ ahead ++ behind, entrant ∈ ahead ++ (handler, lane) :: behind := by
    intro entrant member
    rcases List.mem_append.mp member with before | after
    · exact List.mem_append_left _ before
    · exact List.mem_append_right _ (List.mem_cons_of_mem _ after)
  have distinct := contest.apart
  rw [List.map_append, List.map_cons, List.perm_middle.nodup_iff, List.nodup_cons] at distinct
  refine ⟨fun entrant member => ?_, fun entrant member => ?_, ?_, fun first found => ?_, fun unfound => ?_⟩
  · rcases mem_insert member with rfl | other
    · exact course
    · refine (contest.course entrant (others entrant other)).aside clock (ran.looks _ (.inl fun same => ?_))
        stays
      refine distinct.1 ?_
      rw [← List.map_append]
      exact List.mem_map.mpr ⟨entrant, other, same⟩
  · rcases mem_insert member with rfl | other
    · exact candidate
    · exact contest.known entrant (others entrant other)
  · simpa using contest.apart
  · rcases ran.found with same | ⟨unfound, isFound, onTime⟩
    · exact contest.first first (same ▸ found)
    · obtain rfl := Option.some.inj (isFound.symm.trans found)
      exact ⟨candidate, _, onTime, fun other member later due => contest.early unfound member due⟩
  · rw [names]
    rcases ran.found with same | ⟨-, isFound, -⟩
    · exact contest.unmet (same ▸ unfound)
    · rw [unfound] at isFound
      cases isFound

/-- What leaves the confirmed handler and the counts of the looks leaves the race as it is. -/
theorem Contest.aside {entrants : List (Handler × Flow Bool)} {world after : World}
    (contest : Contest url candidates fate entrants world) (steady : Ledger.Steady world.ledger after.ledger)
    (clock : after.clock = world.clock) : Contest url candidates fate entrants after := by
  have found : after.engine.found = world.engine.found := steady.found
  refine ⟨fun entrant member => ?_, contest.known, contest.apart,
    fun handler held => contest.first handler (found ▸ held), fun unfound => contest.unmet (found ▸ unfound)⟩
  exact (contest.course entrant member).aside clock (steady.looks _ rfl) fun isSome => found ▸ isSome

theorem Contest.winner {entrants : List (Handler × Flow Bool)} {world : World} {winner : Flow Bool}
    (contest : Contest url candidates fate entrants world) (steady : Steady (· ≠ .popup) winner) :
    Contest url candidates fate entrants (winner.run world).2 ∧ Steady (· ≠ .popup) (winner.run world).1 := by
  have turns := (winner.run_adequate world).runs.turns
  exact ⟨contest.aside (turns.respects steady_respects steady) (winner.run_clock world),
    turns.confined steady⟩

theorem Contest.leave {entrants : List (Handler × Flow Bool)} {world : World}
    (contest : Contest url candidates fate entrants world) :
    Contest url candidates fate (entrants.filter ((fun flow => flow.value?.isNone) ∘ Prod.snd)) world := by
  refine ⟨fun entrant member => contest.course entrant (List.mem_filter.mp member).1,
    fun entrant member => contest.known entrant (List.mem_filter.mp member).1,
    contest.apart.sublist (List.filter_sublist.map _), contest.first, fun unfound handler candidate met => ?_⟩
  obtain ⟨⟨other, lane⟩, member, same⟩ := List.mem_map.mp (contest.unmet unfound handler candidate met)
  obtain rfl : other = handler := same
  refine List.mem_map.mpr ⟨(other, lane), List.mem_filter.mpr ⟨member, ?_⟩, rfl⟩
  cases contest.course _ member with
  | ended isOver =>
      have found := isOver met
      rw [unfound] at found
      cases found
  | @waits _ moved yes last count meets lasts =>
      cases value : moved.value? with
      | none => simp [Flow.value?_bind value]
      | some value' =>
          obtain rfl := Flow.value?_eq_some.mp value
          obtain ⟨rfl, -⟩ := lasts.ofDone
          cases value' with
          | true => rfl
          | false =>
              rw [show fate other = none from meets] at met
              cases met

/-- While all candidates sleep, time may pass until one of them wakes. -/
theorem Contest.sleep {entrants : List (Handler × Flow Bool)} {world after heard : World}
    (contest : Contest url candidates fate entrants world) (ledger : after.ledger = world.ledger)
    (rests : ∀ entrant ∈ entrants, entrant.2.readyAt heard = none)
    (inTime : ∀ entrant ∈ entrants, ∀ due, entrant.2.nextDue = some due → after.clock ≤ due) :
    Contest url candidates fate entrants after := by
  have found : after.engine.found = world.engine.found := congrArg (fun ledger => ledger.engine.found) ledger
  have looks : ∀ call, after.callsOf call = world.callsOf call := fun call =>
    congrArg (Ledger.callsOf · call) ledger
  refine ⟨fun entrant member => ?_, contest.known, contest.apart,
    fun handler held => contest.first handler (found ▸ held), fun unfound => contest.unmet (found ▸ unfound)⟩
  have waits := rests entrant member
  have wakes := inTime entrant member
  cases contest.course entrant member with
  | ended => cases waits
  | @waits handler moved yes last count meets lasts =>
      cases value : moved.value? with
      | none =>
          simp only [Flow.readyAt_bind heard value, Flow.nextDue_bind value] at waits wakes
          rw [← looks] at lasts
          exact .waits meets (lasts.elapse waits wakes)
      | some value' =>
          obtain rfl := Flow.value?_eq_some.mp value
          cases value' <;> cases waits

/-- The race goes on, or it is over and nobody is left. -/
inductive Contested (url : String) (candidates : List Handler) (fate : Handler → Option Nat)
    (world : World) : Flow (Option Bool) → Prop where
  | racing {entrants : List (Handler × Flow Bool)} {started : Bool} {winner : Flow Bool}
      (contest : Contest url candidates fate entrants world) (steady : Steady (· ≠ .popup) winner) :
      Contested url candidates fate world (.race (entrants.map Prod.snd) started winner .done)
  | ended {outcome : Option Bool} (contest : Contest url candidates fate [] world) :
      Contested url candidates fate world (.done outcome)

/-- The candidates whose lanes these are race, and the winner is steady. -/
def Contending (url : String) (candidates : List Handler) (fate : Handler → Option Nat) (world : World)
    (lanes : List (Flow Bool)) (_started : Bool) (winner : Flow Bool) : Prop :=
  (∃ entrants, lanes = entrants.map Prod.snd ∧ Contest url candidates fate entrants world) ∧
    Steady (· ≠ .popup) winner

theorem contending_keeps : Flow.RaceKeeps (fun _ => True) (Contending url candidates fate) where
  lane {world ahead lane behind started winner} _ contending := by
    obtain ⟨⟨entrants, are, contest⟩, steady⟩ := contending
    obtain ⟨before, rest, rfl, rfl, isRest⟩ := List.map_eq_append_iff.mp are.symm
    obtain ⟨⟨handler, lane'⟩, after, rfl, isLane, rfl⟩ := List.map_eq_cons_iff.mp isRest
    obtain rfl : lane' = lane := isLane
    exact ⟨⟨_, by simp, contest.lane⟩, steady⟩
  winner _ contending := by
    obtain ⟨⟨entrants, are, contest⟩, steady⟩ := contending
    obtain ⟨contest, steady⟩ := contest.winner steady
    exact ⟨⟨entrants, are, contest⟩, steady⟩

theorem contested_run {world : World} {flow : Flow (Option Bool)}
    (contested : Contested url candidates fate world flow) :
    Contested url candidates fate (flow.run world).2 (flow.run world).1 := by
  cases contested with
  | ended contest => exact .ended contest
  | racing contest steady =>
      obtain ⟨after, all, begun, leader, ⟨⟨entrants, rfl, contest⟩, steady⟩, runs⟩ :=
        contending_keeps.run .done (fun _ _ => trivial) trivial ⟨⟨_, rfl, contest⟩, steady⟩
      rw [runs, List.filter_map]
      have left := contest.leave
      generalize entrants.filter ((fun flow => flow.value?.isNone) ∘ Prod.snd) = remain at left ⊢
      rcases Flow.conclude_done (remain.map Prod.snd) begun leader after with goes | ⟨none, outcome, ends⟩
      · rw [goes]
        exact .racing left steady
      · obtain rfl := List.map_eq_nil_iff.mp none
        rw [ends]
        exact .ended left

theorem contested_keeps : Rehearsal.PlayKeeps (Contested url candidates fate) where
  run := contested_run
  aside {world after flow} contested ledger clock := by
    have steady : Ledger.Steady world.ledger after.ledger := ledger ▸ steady_respects.refl _
    cases contested with
    | racing contest leads => exact .racing (contest.aside steady clock) leads
    | ended contest => exact .ended (contest.aside steady clock)
  sleep {world after flow} contested ledger rests inTime := by
    obtain ⟨heard, rests⟩ := rests
    cases contested with
    | ended => cases rests
    | @racing entrants started winner contest leads =>
        have each := Flow.lanesReadyAt_eq_none.mp (Flow.lanes_rest rests)
        have waits : ∀ entrant ∈ entrants, entrant.2.readyAt heard = none := fun entrant member =>
          each _ (List.mem_map_of_mem member)
        refine .racing (contest.sleep ledger waits fun entrant member => ?_) leads
        exact Flow.lanes_sleep inTime _ (List.mem_map_of_mem member)

end ConsentBanner.Engine

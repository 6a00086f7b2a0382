import ConsentBanner.Proofs.Flow.Settled
import ConsentBanner.Proofs.Flow.Watched

/-!
# What becomes of a page by itself

The plan of a rehearsal says what its page will be at each later moment if nothing is done to it
(`Rehearsal.pageAt`).  At that page a watchful flow looks when it is played: it comes to what it comes to when it
watches these pages, at that time, and leaves the page to itself (`Flow.Watchful.comesTo`).
-/

set_option autoImplicit false

namespace ConsentBanner

/-! ## Pages and questions -/

namespace Snapshot

/-- The page without the host's questions in its log. -/
def unasked (page : Snapshot) : Snapshot :=
  { page with
    events := page.events.filter fun event =>
      match event with
      | .evaluate _ => false
      | _ => true }

theorem unasked_apply (page : Snapshot) (effect : Effect) :
    (page.apply effect).unasked = page.unasked.apply effect := by
  cases effect <;> rfl

theorem unasked_applyAll (effects : List Effect) (page : Snapshot) :
    (page.applyAll effects).unasked = page.unasked.applyAll effects := by
  induction effects generalizing page with
  | nil => rfl
  | cons effect rest ih =>
      have first := page.unasked_apply effect
      exact (ih (page.apply effect)).trans (congrArg (applyAll · rest) first)

theorem unasked_evaluate (page : Snapshot) (code : String) :
    (page.perform (.evaluate code)).2.unasked = page.unasked := by
  have noted : (page.record (.evaluate code)).unasked = page.unasked := by
    rw [unasked, record, List.filter_append]
    simp [unasked]
  rw [perform]
  split
  · rfl
  · rw [reply]
    split <;> exact noted

end Snapshot

theorem FixedPage.ofSnapshot_unasked (page : Snapshot) : ofSnapshot page.unasked = ofSnapshot page := by
  have replies : ∀ {α : Type} (call : PageCall α), (page.unasked.perform call).1 = (page.perform call).1 := by
    intro α call
    have failing : page.unasked.failing = page.failing := rfl
    rw [Snapshot.perform, Snapshot.perform, failing]
    split
    · rfl
    · cases call with
      | click node | addClass node _ | dispatchMouse node _ _ _ =>
          have live : page.unasked.live node = page.live node := rfl
          rw [Snapshot.reply, Snapshot.reply, live]
          cases page.live node <;> rfl
      | evaluate code =>
          have scripts : (page.unasked.record (.evaluate code)).scripts =
              (page.record (.evaluate code)).scripts := rfl
          rw [Snapshot.reply, Snapshot.reply, scripts]
          cases (page.record (.evaluate code)).scripts.get? code <;> rfl
      | _ => rfl
  simp only [ofSnapshot, replies]

/-! ## The plan of a rehearsal -/

/-- How something that happens changes the page. -/
def Occurrence.changes : Occurrence → List Effect
  | .effects made => made
  | .answer _ _ => []

namespace Rehearsal

def plannedBefore (agenda : Agenda Occurrence) (time : Nat) : List Effect :=
  (agenda.takeWhile fun entry => entry.1 < time).flatMap fun entry => entry.2.changes

/-- The page at some later time, if nothing is done to it: all changes are made that come before. -/
def pageAt (rehearsal : Rehearsal) (time : Nat) : Snapshot :=
  if time ≤ rehearsal.world.clock then rehearsal.world.page
  else rehearsal.world.page.applyAll (plannedBefore rehearsal.agenda time)

/-- The pages that are seen in a rehearsal, if nothing is done to them. -/
def pages (rehearsal : Rehearsal) : Timeline := fun time => .ofSnapshot (rehearsal.pageAt time)

theorem plannedBefore_answer (id : String) (value : Json) (due time : Nat) (agenda : Agenda Occurrence) :
    plannedBefore (agenda.add due (.answer id value)) time = plannedBefore agenda time := by
  induction agenda with
  | nil =>
      by_cases before : due < time <;> simp [plannedBefore, Agenda.add, Occurrence.changes, before]
  | cons entry rest ih =>
      rw [Agenda.add]
      by_cases later : due < entry.1
      · -- What is planned for before a time that the answer does not come before is all before the answer.
        rw [if_pos later]
        by_cases before : due < time
        · simp [plannedBefore, Occurrence.changes, before]
        · have beyond : ¬ entry.1 < time := by omega
          simp [plannedBefore, before, beyond]
      · rw [if_neg later]
        by_cases before : entry.1 < time
        · simp only [plannedBefore, List.takeWhile_cons, before, decide_true, if_true, List.flatMap_cons]
          exact congrArg (entry.2.changes ++ ·) ih
        · simp [plannedBefore, before]

theorem plannedBefore_after {clock time : Nat} (later : clock < time) (agenda : Agenda Occurrence) :
    plannedBefore agenda time =
      (agenda.due clock).flatMap Occurrence.changes ++ plannedBefore (agenda.after clock) time := by
  induction agenda with
  | nil => rfl
  | cons entry rest ih =>
      by_cases due : entry.1 ≤ clock
      · have before : entry.1 < time := Nat.lt_of_le_of_lt due later
        simp only [plannedBefore, Agenda.due, Agenda.after, List.takeWhile_cons, List.dropWhile_cons, due, before,
          decide_true, if_true, List.flatMap_cons, List.map_cons, List.append_assoc] at ih ⊢
        rw [ih]
      · simp [Agenda.due, Agenda.after, due]

theorem plannedBefore_next {agenda : Agenda Occurrence} {time : Nat}
    (next : ∀ due, agenda.next? = some due → time ≤ due) : plannedBefore agenda time = [] := by
  cases agenda with
  | nil => rfl
  | cons entry rest =>
      have beyond : ¬ entry.1 < time := Nat.not_lt.mpr (next entry.1 rfl)
      simp [plannedBefore, beyond]

theorem lt_of_idle {agenda : Agenda Occurrence} {clock time : Nat} (idle : (agenda.due clock).isEmpty = true)
    (next : agenda.next? = some time) : clock < time := by
  cases agenda with
  | nil => cases next
  | cons entry rest =>
      cases next
      by_cases due : entry.1 ≤ clock
      · simp [Agenda.due, due] at idle
      · exact Nat.lt_of_not_le due

/-- What happens at a time makes its changes to the page, and leaves alone what is still to come. -/
theorem performAll_page (what : List Occurrence) (rehearsal : Rehearsal) :
    (what.foldl perform rehearsal).world.page = rehearsal.world.page.applyAll (what.flatMap Occurrence.changes) ∧
      (what.foldl perform rehearsal).agenda = rehearsal.agenda := by
  induction what generalizing rehearsal with
  | nil => exact ⟨rfl, rfl⟩
  | cons first rest ih =>
      obtain ⟨page, agenda⟩ := ih (rehearsal.perform first)
      rw [List.foldl_cons, page, agenda, List.flatMap_cons]
      cases first with
      | effects effects => exact ⟨List.foldl_append.symm, rfl⟩
      | answer id value => exact ⟨rfl, rfl⟩

/-! ## What the host does -/

/-- One rehearsal shows what another one shows, now and later. -/
structure ShowsAlike (before after : Rehearsal) : Prop where
  clock : after.world.clock = before.world.clock
  page : after.world.page.unasked = before.world.page.unasked
  planned : ∀ time, plannedBefore after.agenda time = plannedBefore before.agenda time

namespace ShowsAlike

variable {before between after : Rehearsal}

theorem refl (rehearsal : Rehearsal) : ShowsAlike rehearsal rehearsal := ⟨rfl, rfl, fun _ => rfl⟩

theorem trans (first : ShowsAlike before between) (second : ShowsAlike between after) : ShowsAlike before after :=
  ⟨second.clock.trans first.clock, second.page.trans first.page,
    fun time => (second.planned time).trans (first.planned time)⟩

theorem pageAt (alike : ShowsAlike before after) (time : Nat) :
    (after.pageAt time).unasked = (before.pageAt time).unasked := by
  rw [Rehearsal.pageAt, Rehearsal.pageAt, alike.clock, alike.planned]
  split
  · exact alike.page
  · rw [Snapshot.unasked_applyAll, Snapshot.unasked_applyAll, alike.page]

theorem give (rehearsal : Rehearsal) (id : String) (value : Json) : ShowsAlike rehearsal (rehearsal.give id value) :=
  ⟨rfl, rfl, fun _ => rfl⟩

theorem schedule (rehearsal : Rehearsal) (delay : Option Nat) (id : String) (value : Json) :
    ShowsAlike rehearsal (rehearsal.schedule delay (.answer id value)) := by
  cases delay with
  | none => exact give rehearsal id value
  | some time => exact ⟨rfl, rfl, fun _ => plannedBefore_answer _ _ _ _ _⟩

theorem giveFromPage (rehearsal : Rehearsal) (id code : String) :
    ShowsAlike rehearsal (rehearsal.giveFromPage id code) := by
  have unasked := rehearsal.world.page.unasked_evaluate code
  rw [Rehearsal.giveFromPage]
  generalize rehearsal.world.page.perform (.evaluate code) = result at unasked ⊢
  obtain ⟨reply, page⟩ := result
  have turned : ShowsAlike rehearsal { rehearsal with world := { rehearsal.world with page := page } } :=
    ⟨rfl, unasked, fun _ => rfl⟩
  cases reply <;> exact turned.trans (give _ _ _)

theorem serve (rehearsal : Rehearsal) (id code : String) : ShowsAlike rehearsal (rehearsal.serve id code) := by
  unfold Rehearsal.serve
  split
  next => exact giveFromPage rehearsal id code
  next => exact refl rehearsal
  next value delay twice _ =>
    have once := schedule rehearsal delay id value
    split
    · exact once.trans (schedule _ delay id value)
    · exact once

theorem hear (rehearsal : Rehearsal) (message : Outbound) : ShowsAlike rehearsal (rehearsal.hear message) := by
  unfold Rehearsal.hear
  split
  · split
    · exact serve rehearsal _ _
    · exact refl rehearsal
  · exact refl rehearsal

theorem hearEach (messages : List Outbound) (rehearsal : Rehearsal) :
    ShowsAlike rehearsal (messages.foldl Rehearsal.hear rehearsal) := by
  induction messages generalizing rehearsal with
  | nil => exact refl rehearsal
  | cons message rest ih => exact (hear rehearsal message).trans (ih _)

theorem hearAll (rehearsal : Rehearsal) : ShowsAlike rehearsal rehearsal.hearAll := by
  have noted : ShowsAlike rehearsal { rehearsal with seen := rehearsal.world.sent.length } :=
    ⟨rfl, rfl, fun _ => rfl⟩
  exact noted.trans (hearEach _ _)

end ShowsAlike

/-! ## Time passes -/

/-- From one rehearsal to another one nothing was done, and its page at later moments is the one that was planned. -/
structure Drifts (start now : Rehearsal) : Prop where
  ledger : now.world.ledger = start.world.ledger
  clock : start.world.clock ≤ now.world.clock
  outlook : ∀ time, now.world.clock < time → (now.pageAt time).unasked = (start.pageAt time).unasked

/-- Nothing was done either, and the page is now the one that was planned for now. -/
structure Passes (start now : Rehearsal) : Prop extends Drifts start now where
  page : now.world.page.unasked = (start.pageAt now.world.clock).unasked

variable {start now later last : Rehearsal}

theorem pageAt_clock (rehearsal : Rehearsal) : rehearsal.pageAt rehearsal.world.clock = rehearsal.world.page :=
  if_pos (Nat.le_refl _)

namespace Drifts

theorem refl (rehearsal : Rehearsal) : Drifts rehearsal rehearsal := ⟨rfl, Nat.le_refl _, fun _ _ => rfl⟩

theorem trans (first : Drifts start now) (second : Drifts now later) : Drifts start later := by
  refine ⟨second.ledger.trans first.ledger, Nat.le_trans first.clock second.clock, fun time after => ?_⟩
  exact (second.outlook time after).trans (first.outlook time (Nat.lt_of_le_of_lt second.clock after))

theorem ofAlike (alike : ShowsAlike start now) (ledger : now.world.ledger = start.world.ledger) : Drifts start now :=
  ⟨ledger, Nat.le_of_eq alike.clock.symm, fun time _ => alike.pageAt time⟩

theorem hearAll (rehearsal : Rehearsal) : Drifts rehearsal rehearsal.hearAll :=
  .ofAlike (.hearAll rehearsal) (goesOn_hearAll rehearsal).ledger

theorem catchUp (rehearsal : Rehearsal) : Drifts rehearsal rehearsal.catchUp := by
  have caught := goesOn_catchUp rehearsal
  refine ⟨caught.ledger, Nat.le_of_eq caught.clock.symm, fun time after => ?_⟩
  have clock : rehearsal.catchUp.world.clock = rehearsal.world.clock := caught.clock
  obtain ⟨page, agenda⟩ := performAll_page (rehearsal.agenda.due rehearsal.world.clock)
    { rehearsal with agenda := rehearsal.agenda.after rehearsal.world.clock }
  rw [clock] at after
  have beyond : ¬ time ≤ rehearsal.world.clock := Nat.not_le.mpr after
  rw [pageAt, pageAt, clock, if_neg beyond, if_neg beyond, plannedBefore_after after rehearsal.agenda]
  change ((List.foldl perform _ _).world.page.applyAll
    (plannedBefore (List.foldl perform _ _).agenda time)).unasked = _
  rw [page, agenda, Snapshot.applyAll, Snapshot.applyAll, Snapshot.applyAll, List.foldl_append]

end Drifts

namespace Passes

theorem refl (rehearsal : Rehearsal) : Passes rehearsal rehearsal :=
  ⟨.refl rehearsal, congrArg Snapshot.unasked rehearsal.pageAt_clock.symm⟩

/-- At all later moments, and now, the page is the one that was planned. -/
theorem pageAt (passes : Passes start now) {time : Nat} (after : now.world.clock ≤ time) :
    (now.pageAt time).unasked = (start.pageAt time).unasked := by
  rcases Nat.eq_or_lt_of_le after with rfl | later
  · rw [pageAt_clock]
    exact passes.page
  · exact passes.outlook time later

theorem trans (first : Passes start now) (second : Passes now later) : Passes start later :=
  ⟨first.toDrifts.trans second.toDrifts, second.page.trans (first.pageAt second.clock)⟩

theorem drift (first : Drifts start now) (second : Passes now later) (onward : now.world.clock < later.world.clock) :
    Passes start later :=
  ⟨first.trans second.toDrifts, second.page.trans (first.outlook _ onward)⟩

/-- Time passes until something happens that is planned. -/
theorem atTime (rehearsal : Rehearsal) {due : Nat} (after : rehearsal.world.clock < due)
    (next : ∀ other, rehearsal.agenda.next? = some other → due ≤ other) :
    Passes rehearsal (rehearsal.atTime due) := by
  have within : ¬ due ≤ rehearsal.world.clock := Nat.not_le.mpr after
  refine ⟨⟨rfl, Nat.le_of_lt after, fun time beyond => ?_⟩, ?_⟩
  · have further : ¬ time ≤ rehearsal.world.clock := Nat.not_le.mpr (Nat.lt_trans after beyond)
    have still : ¬ time ≤ (rehearsal.atTime due).world.clock := Nat.not_le.mpr beyond
    rw [Rehearsal.pageAt, Rehearsal.pageAt, if_neg further, if_neg still]
    rfl
  · change _ = (rehearsal.pageAt due).unasked
    rw [Rehearsal.pageAt, if_neg within, plannedBefore_next next]
    rfl

theorem pages (passes : Passes start now) {time : Nat} (after : now.world.clock ≤ time) :
    now.pages time = start.pages time := by
  rw [Rehearsal.pages, Rehearsal.pages, ← FixedPage.ofSnapshot_unasked, passes.pageAt after,
    FixedPage.ofSnapshot_unasked]

end Passes

/-! ## Watchful flows -/

variable {α : Type} {flow moved : Flow α}

/-- The page is the one that was planned for now, or a flow waits for a later moment. -/
def IsSeen (start now : Rehearsal) (flow : Flow α) : Prop :=
  now.world.page.unasked = (start.pageAt now.world.clock).unasked ∨ flow.Waits now.world.clock

/-- A watchful flow that is run sees the page that was planned. -/
theorem IsSeen.run (sees : start.IsSeen now flow) (watchful : flow.Watchful) :
    Flow.LeftWatching start.pages flow now.world (flow.run now.world).1 (flow.run now.world).2 := by
  rcases sees with page | waits
  · refine watchful.staysWatching now.world ?_
    rw [pages, ← FixedPage.ofSnapshot_unasked, ← page, FixedPage.ofSnapshot_unasked]
  · rw [waits.run]
    exact .self watchful fun _ => waits

/-- Where a flow waits, things happen that are planned, or time passes until the first that it waits for. -/
theorem Drifts.proceeds (drifts : Drifts start now) (waits : moved.Waits now.world.clock)
    (proceeds : Proceeds now moved later) : Drifts start later ∧ start.IsSeen later moved ∧
      moved.watch start.pages later.world.clock = moved.watch start.pages now.world.clock := by
  cases proceeds with
  | ready ready =>
      rw [waits.readyAt] at ready
      cases ready
  | due _ due =>
      have clock : now.catchUp.world.clock = now.world.clock := (goesOn_catchUp now).clock
      exact ⟨drifts.trans (.catchUp now), .inr (clock.symm ▸ waits), by rw [clock]⟩
  | @time due _ idle next =>
      obtain ⟨wakes, isNext, after⟩ := waits.nextDue
      obtain ⟨inTime, planned⟩ := Flow.earlier_bound fun other is =>
        Nat.le_of_eq (Option.some.inj (next.symm.trans is))
      have soon : now.world.clock < due := by
        rcases Flow.earlier_eq_some next with sleeps | plans
        · exact Option.some.inj (isNext.symm.trans sleeps) ▸ after
        · exact lt_of_idle idle plans
      have fresh := Passes.drift drifts (.atTime now soon planned) soon
      exact ⟨fresh.toDrifts, .inl fresh.page, waits.watch_later inTime⟩

/-- A flow that is played while the page is left to itself comes to what it comes to when it watches, at that time. -/
theorem watch_of_played {value : α} {fuel : Nat} : ∀ {now : Rehearsal} {flow : Flow α}, flow.Watchful →
    Drifts start now → start.IsSeen now flow → now.playFlow fuel flow = (some value, last) →
      flow.watch start.pages now.world.clock = some (value, last.world.clock) ∧ Passes start last := by
  induction fuel with
  | zero => exact fun _ _ _ played => nomatch played
  | succ fuel ih =>
      intro now flow watchful drifts sees played
      have clock := flow.run_clock now.world
      have left := sees.run watchful
      have stillWaits : flow.Waits now.world.clock → (flow.run now.world).1.value? = none := fun waits =>
        waits.run ▸ waits.pending
      generalize runs : flow.run now.world = result at left clock stillWaits
      obtain ⟨moved, world⟩ := result
      dsimp only at left clock stillWaits
      -- Whatever was run, the page and the plan are as they were.
      have ran : ShowsAlike now { now with world := world } :=
        ⟨clock, congrArg Snapshot.unasked left.page, fun _ => rfl⟩
      have drifted : Drifts start { now with world := world } := drifts.trans (.ofAlike ran left.ledger)
      rcases playFlow_cases runs played with ⟨rfl, rfl⟩ | ⟨pending, later, proceeds, onward⟩
      · have ends : flow.watch start.pages now.world.clock = some (value, now.world.clock) := left.watch.symm
        rcases sees with page | waits
        · refine ⟨clock.symm ▸ ends, drifted, ?_⟩
          change world.page.unasked = (start.pageAt world.clock).unasked
          rw [left.page, clock]
          exact page
        · cases stillWaits waits
      · have heard := Drifts.hearAll { now with world := world }
        have sameClock := (ShowsAlike.hearAll { now with world := world }).clock
        generalize ({ now with world := world } : Rehearsal).hearAll = hearing at proceeds heard sameClock
        replace sameClock : hearing.world.clock = now.world.clock := sameClock.trans clock
        have waits : moved.Waits hearing.world.clock := sameClock ▸ left.rests pending
        obtain ⟨drifting, seen, same⟩ := (drifted.trans heard).proceeds waits proceeds
        rw [← left.watch, ← sameClock, ← same]
        exact ih left.watchful drifting seen onward

end Rehearsal

/-- A watchful flow that is played comes to an end.  It comes to what it comes to when it watches the pages that are
planned, at that time, and leaves the page to itself. -/
theorem Flow.Watchful.comesTo {α : Type} {flow : Flow α} (watchful : flow.Watchful) (start : Rehearsal) :
    ∃ value last, start.ComesTo flow value last ∧
      flow.watch start.pages start.world.clock = some (value, last.world.clock) ∧ start.Passes last := by
  obtain ⟨value, last, enough, plays, -⟩ := start.plays watchful.confined
  have fresh := Rehearsal.Passes.refl start
  obtain ⟨watched, passes⟩ :=
    Rehearsal.watch_of_played watchful fresh.toDrifts (.inl fresh.page) (plays enough (Nat.le_refl enough))
  exact ⟨value, last, ⟨enough, plays⟩, watched, passes⟩

end ConsentBanner

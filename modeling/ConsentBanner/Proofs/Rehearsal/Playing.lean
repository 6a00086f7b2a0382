import ConsentBanner.Proofs.Flow.Alone
import ConsentBanner.Proofs.Flow.Ending
import ConsentBanner.Rehearsal.Run

/-!
# Flows are played to their end

A rehearsal only adds to what happens around a flow: messages are heard, answers are given, time passes.
A flow that is alone is played to its end in every rehearsal, and to play it is to let it take turns.
-/

set_option autoImplicit false

namespace ConsentBanner

namespace Rehearsal

/-- A rehearsal goes on to another one in which flows find what they left, and in which no more than so
many things are still to happen. -/
structure GoesOn (more : Nat) (before after : Rehearsal) : Prop where
  ledger : after.world.ledger = before.world.ledger
  clock : after.world.clock = before.world.clock
  seen : after.seen = before.seen
  agenda : after.agenda.length ≤ before.agenda.length + more

namespace GoesOn

variable {before between after : Rehearsal} {more less : Nat}

theorem refl (rehearsal : Rehearsal) : GoesOn 0 rehearsal rehearsal := ⟨rfl, rfl, rfl, Nat.le_refl _⟩

theorem trans (first : GoesOn less before between) (second : GoesOn more between after) :
    GoesOn (less + more) before after := by
  refine ⟨second.ledger.trans first.ledger, second.clock.trans first.clock, second.seen.trans first.seen, ?_⟩
  have one := first.agenda
  have two := second.agenda
  omega

theorem weaken (goesOn : GoesOn less before after) (within : less ≤ more) : GoesOn more before after :=
  ⟨goesOn.ledger, goesOn.clock, goesOn.seen, Nat.le_trans goesOn.agenda (Nat.add_le_add_left within _)⟩

end GoesOn

theorem goesOn_give (rehearsal : Rehearsal) (id : String) (value : Json) :
    GoesOn 0 rehearsal (rehearsal.give id value) := ⟨rfl, rfl, rfl, Nat.le_refl _⟩

theorem goesOn_perform (rehearsal : Rehearsal) (what : Occurrence) :
    GoesOn 0 rehearsal (rehearsal.perform what) := by
  cases what with
  | effects effects => exact ⟨rfl, rfl, rfl, Nat.le_refl _⟩
  | answer id value => exact goesOn_give rehearsal id value

theorem goesOn_performAll (what : List Occurrence) (rehearsal : Rehearsal) :
    GoesOn 0 rehearsal (what.foldl perform rehearsal) := by
  induction what generalizing rehearsal with
  | nil => exact .refl rehearsal
  | cons first rest ih => exact (goesOn_perform rehearsal first).trans (ih _)

theorem goesOn_schedule (rehearsal : Rehearsal) (delay : Option Nat) (what : Occurrence) :
    GoesOn 1 rehearsal (rehearsal.schedule delay what) := by
  cases delay with
  | none => exact (goesOn_perform rehearsal what).weaken (Nat.zero_le 1)
  | some time => exact ⟨rfl, rfl, rfl, Nat.le_of_eq (Agenda.length_add _ _ _)⟩

theorem goesOn_giveFromPage (rehearsal : Rehearsal) (id code : String) :
    GoesOn 0 rehearsal (rehearsal.giveFromPage id code) := by
  unfold giveFromPage
  obtain ⟨reply, page⟩ := rehearsal.world.page.perform (.evaluate code)
  have turned : GoesOn 0 rehearsal { rehearsal with world := { rehearsal.world with page := page } } :=
    ⟨rfl, rfl, rfl, Nat.le_refl _⟩
  cases reply <;> exact turned.trans (goesOn_give _ _ _)

theorem goesOn_serve (rehearsal : Rehearsal) (id code : String) :
    GoesOn 2 rehearsal (rehearsal.serve id code) := by
  unfold serve
  split
  next => exact (goesOn_giveFromPage rehearsal id code).weaken (Nat.zero_le 2)
  next => exact (GoesOn.refl rehearsal).weaken (Nat.zero_le 2)
  next value delay twice _ =>
    have once := goesOn_schedule rehearsal delay (.answer id value)
    split
    · exact once.trans (goesOn_schedule _ delay (.answer id value))
    · exact once.weaken (Nat.le_succ 1)

theorem goesOn_hear (rehearsal : Rehearsal) (message : Outbound) :
    GoesOn 2 rehearsal (rehearsal.hear message) := by
  unfold hear
  split
  · split
    · exact goesOn_serve rehearsal _ _
    · exact (GoesOn.refl rehearsal).weaken (Nat.zero_le 2)
  · exact (GoesOn.refl rehearsal).weaken (Nat.zero_le 2)

theorem goesOn_hearEach (messages : List Outbound) (rehearsal : Rehearsal) :
    GoesOn (2 * messages.length) rehearsal (messages.foldl hear rehearsal) := by
  induction messages generalizing rehearsal with
  | nil => exact .refl rehearsal
  | cons message rest ih =>
      refine ((goesOn_hear rehearsal message).trans (ih _)).weaken ?_
      rw [List.length_cons]
      omega

theorem goesOn_hearAll (rehearsal : Rehearsal) :
    GoesOn (2 * (rehearsal.world.sent.length - rehearsal.seen))
      { rehearsal with seen := rehearsal.world.sent.length } rehearsal.hearAll := by
  have heard := goesOn_hearEach (rehearsal.world.sent.drop rehearsal.seen)
    { rehearsal with seen := rehearsal.world.sent.length }
  rwa [List.length_drop] at heard

theorem goesOn_catchUp (rehearsal : Rehearsal) :
    GoesOn 0 { rehearsal with agenda := rehearsal.agenda.after rehearsal.world.clock } rehearsal.catchUp :=
  goesOn_performAll _ _

/-- A flow is played to its end, as its turns lead there. -/
def Plays {α : Type} (rehearsal : Rehearsal) (flow : Flow α) : Prop :=
  ∃ value last enough, (∀ fuel, enough ≤ fuel → playFlow fuel rehearsal flow = (some value, last)) ∧
    flow.Turns rehearsal.world.ledger (.done value) last.world.ledger

structure Further {α : Type} (rehearsal : Rehearsal) (flow : Flow α) (later : Rehearsal) (moved : Flow α) :
    Prop where
  play : ∀ fuel, playFlow (fuel + 1) rehearsal flow = playFlow fuel later moved
  turns : flow.Turns rehearsal.world.ledger moved later.world.ledger

theorem Further.plays {α : Type} {rehearsal later : Rehearsal} {flow moved : Flow α}
    (further : Further rehearsal flow later moved) (plays : Plays later moved) : Plays rehearsal flow := by
  obtain ⟨value, last, enough, plays, turns⟩ := plays
  refine ⟨value, last, enough + 1, fun fuel fits => ?_, further.turns.trans turns⟩
  obtain ⟨fuel, rfl⟩ := Nat.exists_eq_add_of_le' (Nat.le_trans (Nat.le_add_left 1 enough) fits)
  rw [further.play]
  exact plays fuel (Nat.le_of_succ_le_succ fits)

/-- How much is still to happen before a flow must go on: messages are heard, then what is due comes
about, then time passes. -/
def suspense {α : Type} (rehearsal : Rehearsal) (flow : Flow α) : Nat :=
  2 * (rehearsal.agenda.length + 3 * (rehearsal.world.sent.length - rehearsal.seen)) +
    if (flow.readyAt rehearsal.world).isSome || !(rehearsal.agenda.due rehearsal.world.clock).isEmpty then 0
    else 1

/-- What a flow that is not done leaves to the rehearsal: it goes on with the flow, or what is due comes
about, or time passes. -/
inductive Proceeds {α : Type} (heard : Rehearsal) (flow : Flow α) : Rehearsal → Prop where
  | ready (ready : (flow.readyAt heard.world).isSome = true) : Proceeds heard flow heard
  | due (waits : flow.readyAt heard.world = none)
      (due : (heard.agenda.due heard.world.clock).isEmpty = false) : Proceeds heard flow heard.catchUp
  | time {due : Nat} (waits : flow.readyAt heard.world = none)
      (idle : (heard.agenda.due heard.world.clock).isEmpty = true)
      (next : Flow.earlier flow.nextDue heard.agenda.next? = some due) :
      Proceeds heard flow (heard.atTime due)

variable {α : Type} {rehearsal : Rehearsal} {flow moved : Flow α} {world : World}

theorem Proceeds.play {later : Rehearsal} (runs : flow.run rehearsal.world = (moved, world))
    (pending : moved.value? = none)
    (proceeds : Proceeds ({ rehearsal with world := world } : Rehearsal).hearAll moved later) (fuel : Nat) :
    playFlow (fuel + 1) rehearsal flow = playFlow fuel later moved := by
  generalize heard : ({ rehearsal with world := world } : Rehearsal).hearAll = heard' at proceeds
  cases proceeds with
  | ready ready => simp only [playFlow, runs, pending, heard, ready, if_true]
  | due waits due => simp [playFlow, runs, pending, heard, waits, due]
  | time waits idle next => simp [playFlow, runs, pending, heard, waits, idle, next]

/-- A flow that is played comes to a value at once, or is taken further, or is given up. -/
theorem playFlow_cases {fuel : Nat} {value : α} {last : Rehearsal}
    (runs : flow.run rehearsal.world = (moved, world))
    (played : playFlow (fuel + 1) rehearsal flow = (some value, last)) :
    (moved = .done value ∧ last = { rehearsal with world := world }) ∨
      moved.value? = none ∧ ∃ later,
        Proceeds ({ rehearsal with world := world } : Rehearsal).hearAll moved later ∧
        playFlow fuel later moved = (some value, last) := by
  cases pending : moved.value? with
  | some value' =>
      simp only [playFlow, runs, pending, Prod.mk.injEq, Option.some.injEq] at played
      obtain ⟨rfl, rfl⟩ := played
      exact .inl ⟨Flow.value?_eq_some.mp pending, rfl⟩
  | none =>
      refine .inr ⟨rfl, ?_⟩
      have further : ∀ {later}, Proceeds ({ rehearsal with world := world } : Rehearsal).hearAll moved later →
          ∃ later, Proceeds ({ rehearsal with world := world } : Rehearsal).hearAll moved later ∧
            playFlow fuel later moved = (some value, last) :=
        fun proceeds => ⟨_, proceeds, proceeds.play runs pending fuel ▸ played⟩
      generalize heard : ({ rehearsal with world := world } : Rehearsal).hearAll = heard' at further ⊢
      cases ready : moved.readyAt heard'.world with
      | some order => exact further (.ready (by rw [ready]; rfl))
      | none =>
          cases idle : (heard'.agenda.due heard'.world.clock).isEmpty with
          | false => exact further (.due ready idle)
          | true =>
              cases next : Flow.earlier moved.nextDue heard'.agenda.next? with
              | some due => exact further (.time ready idle next)
              | none => simp [playFlow, runs, pending, heard, ready, idle, next] at played

/-- A flow that is alone does not get stuck. -/
theorem proceeds {may : Allowance} (heard : Rehearsal) (alone : moved.Confined may true) :
    ∃ later, Proceeds heard moved later := by
  cases ready : moved.readyAt heard.world with
  | some order => exact ⟨_, .ready (by rw [ready]; rfl)⟩
  | none =>
      cases idle : (heard.agenda.due heard.world.clock).isEmpty with
      | false => exact ⟨_, .due ready idle⟩
      | true =>
          have sleeps : (Flow.earlier moved.nextDue heard.agenda.next?).isSome = true :=
            Flow.earlier_isSome.mpr (.inl (Flow.nextDue_isSome alone ready))
          obtain ⟨due, next⟩ := Option.isSome_iff_exists.mp sleeps
          exact ⟨_, .time ready idle next⟩

theorem after_length (clock : Nat) (agenda : Agenda Occurrence) :
    (agenda.due clock).length + (agenda.after clock).length = agenda.length := by
  rw [Agenda.due, Agenda.after, List.length_map, ← List.length_append, List.takeWhile_append_dropWhile]

theorem due_of_next {agenda : Agenda Occurrence} {time : Nat} (next : agenda.next? = some time) :
    (agenda.due time).isEmpty = false := by
  cases agenda with
  | nil => cases next
  | cons entry rest =>
      cases next
      simp [Agenda.due]

/-- What hearing, catching up and letting time pass leave: the flow finds what it left, and time only
passes where it rests, and not beyond the time that it sleeps until. -/
structure Kept (rehearsal : Rehearsal) (flow : Flow α) (later : Rehearsal) : Prop where
  ledger : later.world.ledger = rehearsal.world.ledger
  seen : later.seen = rehearsal.world.sent.length
  agenda : later.agenda.length ≤
    rehearsal.agenda.length + 2 * (rehearsal.world.sent.length - rehearsal.seen)
  clock : later.world.clock = rehearsal.world.clock ∨ (∃ world, flow.readyAt world = none) ∧
    ∀ due, flow.nextDue = some due → later.world.clock ≤ due

theorem Proceeds.kept {later : Rehearsal} (proceeds : Proceeds rehearsal.hearAll flow later) :
    Kept rehearsal flow later := by
  have heard := goesOn_hearAll rehearsal
  generalize rehearsal.hearAll = heard' at heard proceeds
  cases proceeds with
  | ready => exact ⟨heard.ledger, heard.seen, heard.agenda, .inl heard.clock⟩
  | time waits _ next =>
      exact ⟨heard.ledger, heard.seen, heard.agenda, .inr ⟨⟨_, waits⟩, fun _ => Flow.earlier_le next⟩⟩
  | due _ due =>
      have caught := goesOn_catchUp heard'
      have fewer := after_length heard'.world.clock heard'.agenda
      have within := caught.agenda
      have before := heard.agenda
      refine ⟨caught.ledger.trans heard.ledger, caught.seen.trans heard.seen, ?_,
        .inl (caught.clock.trans heard.clock)⟩
      simp only at within before
      omega

theorem sent_of_ledger {before after : Rehearsal} (same : after.world.ledger = before.world.ledger) :
    after.world.sent = before.world.sent := congrArg Ledger.sent same

theorem hearAll_of_heard {rehearsal : Rehearsal}
    (heard : rehearsal.world.sent.length - rehearsal.seen = 0) :
    rehearsal.hearAll = { rehearsal with seen := rehearsal.world.sent.length } := by
  have nothing : rehearsal.world.sent.drop rehearsal.seen = [] :=
    List.drop_eq_nil_of_le (Nat.le_of_sub_eq_zero heard)
  rw [hearAll, nothing, List.foldl_nil]

/-- Where a flow rests, less is left to happen before it must go on. -/
theorem Proceeds.suspense {later : Rehearsal}
    (waits : flow.readyAt rehearsal.world = none) (proceeds : Proceeds rehearsal.hearAll flow later) :
    later.suspense flow < rehearsal.suspense flow := by
  obtain ⟨ledger, seen, agenda, -⟩ := proceeds.kept
  have noted : later.world.sent.length - later.seen = 0 := by
    rw [sent_of_ledger ledger, seen, Nat.sub_self]
  have flag : ∀ rehearsal : Rehearsal, (if (flow.readyAt rehearsal.world).isSome ||
      !(rehearsal.agenda.due rehearsal.world.clock).isEmpty then 0 else 1) ≤ 1 := by
    intro rehearsal
    split <;> omega
  have laterFlag := flag later
  unfold Rehearsal.suspense
  rw [noted]
  by_cases heard : rehearsal.world.sent.length - rehearsal.seen = 0
  · rw [hearAll_of_heard heard] at proceeds
    cases proceeds with
    | ready ready => simp [waits] at ready
    | due _ due =>
        have caught := (goesOn_catchUp { rehearsal with seen := rehearsal.world.sent.length }).agenda
        have fewer := after_length rehearsal.world.clock rehearsal.agenda
        have some := List.length_pos_iff.mpr (List.isEmpty_eq_false_iff.mp due)
        simp only at caught some
        omega
    | @time due _ idle next =>
        have before : (rehearsal.agenda.due rehearsal.world.clock).isEmpty = true := idle
        have after : ((flow.readyAt { rehearsal.world with clock := due }).isSome ||
            !(rehearsal.agenda.due due).isEmpty) = true := by
          rcases Flow.earlier_eq_some next with sleeps | next
          · have ready : (flow.readyAt { rehearsal.world with clock := due }).isSome = true :=
              Flow.readyAt_of_due sleeps (Nat.le_refl due)
            rw [ready, Bool.true_or]
          · rw [due_of_next next, Bool.not_false, Bool.or_true]
        simp only [atTime, waits, before, after, heard]
        simp
  · omega

theorem plays {may : Allowance} (rehearsal : Rehearsal)
    (alone : flow.Confined may true) : Plays rehearsal flow := by
  -- Either the flow takes turns, which it can not do for ever, or less is left to happen.
  induction flow.ends.transGen generalizing rehearsal with
  | intro flow _ ihFlow =>
      generalize left : rehearsal.suspense flow = amount
      induction amount using Nat.strongRecOn generalizing rehearsal with
      | ind amount ihAmount =>
          have adequate := flow.run_adequate rehearsal.world
          generalize runs : flow.run rehearsal.world = result at adequate
          obtain ⟨moved, world⟩ := result
          have turns := adequate.runs.turns
          have stillAlone := turns.confined alone
          cases pending : moved.value? with
          | some value =>
            obtain rfl := Flow.value?_eq_some.mp pending
            refine ⟨value, { rehearsal with world := world }, 1, fun fuel positive => ?_, turns⟩
            obtain ⟨fuel, rfl⟩ := Nat.exists_eq_add_of_le' positive
            simp only [playFlow, runs, pending]
          | none =>
            obtain ⟨later, proceeds⟩ :=
              proceeds ({ rehearsal with world := world } : Rehearsal).hearAll stillAlone
            have ledger := proceeds.kept.ledger
            have further : Further rehearsal flow later moved :=
              ⟨proceeds.play runs pending, ledger ▸ turns⟩
            refine further.plays ?_
            rcases adequate.runs with ⟨between, middle, turn, rest⟩ | ⟨same, rests⟩
            · exact ihFlow moved (turn.becomes rest) later stillAlone
            · obtain ⟨rfl, rfl⟩ := Prod.mk.inj same
              have waits := rests.readyAt (by rw [pending]; rfl)
              exact ihAmount _ (left ▸ proceeds.suspense waits) later rfl

end Rehearsal

end ConsentBanner

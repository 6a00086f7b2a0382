import ConsentBanner.Flow.Run
import ConsentBanner.Proofs.Flow.Adequacy
import ConsentBanner.Proofs.Flow.Confined

/-!
# Flows that are alone

A confined flow stays confined in every turn.  If it is alone, it is done, or it can go on at once, or it
sleeps until a known time, at which it can go on: time is all that it needs.
-/

set_option autoImplicit false

namespace ConsentBanner.Flow

variable {α : Type} {may : Allowance} {alone : Bool}

theorem lanesConfined_iff {lanes : List (Flow Bool)} :
    LanesConfined may alone lanes ↔ ∀ lane ∈ lanes, lane.Confined may alone := by
  induction lanes with
  | nil => simp [LanesConfined]
  | cons lane rest ih => simp [LanesConfined, ih]

theorem Burst.confined {flow after : Flow α} {before later : Ledger} (burst : Burst flow before after later)
    (confined : flow.Confined may alone) : after.Confined may alone := by
  induction burst with
  | rest => exact confined
  | ask _ _ _ ih => exact ih (confined.2 _)

theorem Turn.confined {flow after : Flow α} {before later : Ledger} (turn : Turn flow before after later)
    (confined : flow.Confined may alone) : after.Confined may alone := by
  induction turn generalizing alone with
  | start _ burst => exact burst.confined confined
  | page reply burst => exact burst.confined (confined.2 reply)
  | lieDown => exact confined
  | skip _ burst =>
      have onward : Confined may alone _ := confined
      exact burst.confined onward
  | wake _ _ burst =>
      have onward : Confined may alone _ := confined
      exact burst.confined onward
  | answered reply burst => exact burst.confined (confined.2 reply)
  | left _ ih => exact ⟨ih confined.1, confined.2⟩
  | right _ ih => exact ⟨confined.1, ih confined.2.1, confined.2.2⟩
  | join burst => exact burst.confined (confined.2.2 _ _)
  | either _ ih => exact ⟨confined.1.imp (.imp ih id) (.imp ih id), confined.2⟩
  | other _ ih => exact ⟨confined.1.imp (.imp id ih) (.imp id ih), confined.2⟩
  | leftFirst burst => exact burst.confined (confined.2 _)
  | rightFirst burst => exact burst.confined (confined.2 _)
  | lane _ ih =>
      obtain ⟨lanes, others⟩ := confined
      refine ⟨lanesConfined_iff.mpr fun lane member => ?_, others⟩
      have each := lanesConfined_iff.mp lanes
      rcases List.mem_append.mp member with ahead | member
      · exact each lane (List.mem_append_left _ ahead)
      · rcases List.mem_cons.mp member with rfl | behind
        · exact ih (each _ (by simp))
        · exact each lane (by simp [behind])
  | win => exact confined
  | leave =>
      obtain ⟨lanes, others⟩ := confined
      refine ⟨lanesConfined_iff.mpr fun lane member => ?_, others⟩
      refine lanesConfined_iff.mp lanes lane ?_
      rcases List.mem_append.mp member with ahead | behind
      · exact List.mem_append_left _ ahead
      · exact List.mem_append_right _ (List.mem_cons_of_mem _ behind)
  | winner _ ih => exact ⟨confined.1, ih confined.2.1, confined.2.2⟩
  | lost burst => exact burst.confined (confined.2.2 _)
  | decided burst => exact burst.confined (confined.2.2 _)

theorem Turns.confined {flow after : Flow α} {before later : Ledger}
    (turns : Turns flow before after later) (confined : flow.Confined may alone) :
    after.Confined may alone := by
  induction turns with
  | refl => exact confined
  | head turn _ ih => exact ih (turn.confined confined)

structure Respects (may : Allowance) (law : Ledger → Ledger → Prop) : Prop where
  refl : ∀ ledger, law ledger ledger
  trans : ∀ {a b c}, law a b → law b c → law a c
  reply : ∀ {β : Type} {request : Request β} {reply : β} {before after : Ledger}, may request →
    before.MayReply request reply after → law before after

variable {law : Ledger → Ledger → Prop}

theorem Burst.respects {flow after : Flow α} {before later : Ledger} (respects : Respects may law)
    (burst : Burst flow before after later) (confined : flow.Confined may alone) : law before later := by
  induction burst with
  | rest ledger _ => exact respects.refl ledger
  | ask _ replied _ ih => exact respects.trans (respects.reply confined.1.1 replied) (ih (confined.2 _))

theorem Turn.respects {flow after : Flow α} {before later : Ledger} (respects : Respects may law)
    (turn : Turn flow before after later) (confined : flow.Confined may alone) : law before later := by
  induction turn generalizing alone with
  | start _ burst => exact burst.respects respects confined
  | page reply burst => exact burst.respects respects (confined.2 reply)
  | lieDown ledger => exact respects.refl ledger
  | skip _ burst =>
      have onward : Confined may alone _ := confined
      exact burst.respects respects onward
  | wake _ _ burst =>
      have onward : Confined may alone _ := confined
      exact burst.respects respects onward
  | answered reply burst => exact burst.respects respects (confined.2 reply)
  | left _ ih => exact ih confined.1
  | right _ ih => exact ih confined.2.1
  | join burst => exact burst.respects respects (confined.2.2 _ _)
  | either _ ih => exact confined.1.elim (fun parts => ih parts.1) fun parts => ih parts.1
  | other _ ih => exact confined.1.elim (fun parts => ih parts.2) fun parts => ih parts.2
  | leftFirst burst => exact burst.respects respects (confined.2 _)
  | rightFirst burst => exact burst.respects respects (confined.2 _)
  | lane _ ih => exact ih (lanesConfined_iff.mp confined.1 _ (by simp))
  | win ledger => exact respects.refl ledger
  | leave ledger => exact respects.refl ledger
  | winner _ ih => exact ih confined.2.1
  | lost burst => exact burst.respects respects (confined.2.2 _)
  | decided burst => exact burst.respects respects (confined.2.2 _)

/-- Flows that only make requests that respect a law keep it. -/
theorem Turns.respects {flow after : Flow α} {before later : Ledger} (respects : Respects may law)
    (turns : Turns flow before after later) (confined : flow.Confined may alone) : law before later := by
  induction turns with
  | refl _ ledger => exact respects.refl ledger
  | head turn _ ih =>
      exact respects.trans (turn.respects respects confined) (ih (turn.confined confined))

theorem earlier_isSome {one two : Option Nat} :
    (earlier one two).isSome = true ↔ one.isSome = true ∨ two.isSome = true := by
  cases one <;> cases two <;> simp [earlier]

theorem earlier_eq_some {one two : Option Nat} {time : Nat} (is : earlier one two = some time) :
    one = some time ∨ two = some time := by
  cases one <;> cases two <;> simp_all [earlier]
  omega

theorem earlier_le {one two : Option Nat} {time other : Nat} (is : earlier one two = some time)
    (sooner : one = some other) : time ≤ other := by
  cases one <;> cases two <;> simp_all [earlier]
  omega

theorem earlier_bound {one two : Option Nat} {time : Nat}
    (inTime : ∀ due, earlier one two = some due → time ≤ due) :
    (∀ due, one = some due → time ≤ due) ∧ ∀ due, two = some due → time ≤ due := by
  cases one <;> cases two <;> simp_all [earlier] <;> omega

theorem lanesNextDue_bound {lanes : List (Flow Bool)} {time : Nat}
    (inTime : ∀ due, lanesNextDue lanes = some due → time ≤ due) :
    ∀ lane ∈ lanes, ∀ due, lane.nextDue = some due → time ≤ due := by
  induction lanes with
  | nil => nofun
  | cons lane rest ih =>
      obtain ⟨first, others⟩ := earlier_bound inTime
      intro other member
      rcases List.mem_cons.mp member with rfl | member
      · exact first
      · exact ih others other member

theorem lanes_rest {lanes : List (Flow Bool)} {started : Bool} {winner : Flow Bool}
    {next : Option Bool → Flow α} {world : World}
    (rests : (Flow.race lanes started winner next).readyAt world = none) :
    lanesReadyAt world lanes = none := by
  cases started with
  | true =>
      rw [readyAt_started] at rests
      split at rests
      · exact rests
      · exact (earlier_eq_none.mp rests).2
  | false =>
      cases lanes with
      | nil => cases rests
      | cons lane rest => exact rests

theorem lanes_sleep {lanes : List (Flow Bool)} {started : Bool} {winner : Flow Bool}
    {next : Option Bool → Flow α} {time : Nat}
    (inTime : ∀ due, (Flow.race lanes started winner next).nextDue = some due → time ≤ due) :
    ∀ lane ∈ lanes, ∀ due, lane.nextDue = some due → time ≤ due := by
  cases started with
  | true => exact lanesNextDue_bound (earlier_bound inTime).2
  | false => exact lanesNextDue_bound inTime

theorem raceReady_eq_none {lanes : List (Flow Bool)} {winner : Flow Bool} {next : Option Bool → Flow α}
    {world : World} : (Flow.race lanes true winner next).readyAt world = none ↔
      winner.value?.isSome = true ∧ lanes ≠ [] ∧ lanesReadyAt world lanes = none ∨
        winner.readyAt world = none ∧ lanesReadyAt world lanes = none := by
  rw [readyAt_started]
  split
  next decided =>
    rw [Bool.and_eq_true, Bool.not_eq_true', List.isEmpty_eq_false_iff] at decided
    refine ⟨fun waits => .inl ⟨decided.1, decided.2, waits⟩, ?_⟩
    rintro (⟨-, -, waits⟩ | ⟨-, waits⟩) <;> exact waits
  next undecided =>
    rw [earlier_eq_none]
    refine ⟨.inr, ?_⟩
    rintro (⟨done, nonempty, -⟩ | waits)
    · simp [done, nonempty] at undecided
    · exact waits

mutual

theorem nextDue_isSome {world : World} : ∀ {α : Type} {flow : Flow α}, flow.Confined may true →
    flow.readyAt world = none → flow.nextDue.isSome = true
  | _, .done _, _, waits => nomatch waits
  | _, .ask _ _, _, waits => nomatch waits
  | _, .sleep _ _, _, waits => nomatch waits
  | _, .asleep _ _ _, _, _ => rfl
  | _, .await _ _, confined, _ => nomatch confined.1
  | _, .both left right next, confined, waits => by
      have one : left.readyAt world = none → _ := nextDue_isSome confined.1
      have two : right.readyAt world = none → _ := nextDue_isSome confined.2.1
      refine earlier_isSome.mpr ?_
      simp only [readyAt] at waits
      split at waits
      next => cases waits
      next => exact .inr (two waits)
      next => exact .inl (one waits)
      next => exact .inl (one (earlier_eq_none.mp waits).1)
  | _, .first left right next, confined, waits => by
      obtain ⟨one, two⟩ := earlier_eq_none.mp waits
      refine earlier_isSome.mpr ?_
      exact confined.1.imp (fun parts => nextDue_isSome parts.1 one) fun parts => nextDue_isSome parts.2 two
  | _, .race lanes started winner next, confined, waits => by
      have each : lanes ≠ [] → lanesReadyAt world lanes = none → _ := lanesNextDue_isSome confined.1
      have lead : winner.readyAt world = none → _ := nextDue_isSome confined.2.1
      cases started with
      | false =>
          cases lanes with
          | nil => cases waits
          | cons lane rest => exact each nofun waits
      | true =>
          refine earlier_isSome.mpr ?_
          rcases raceReady_eq_none.mp waits with ⟨-, nonempty, waits⟩ | ⟨waits, -⟩
          · exact .inr (each nonempty waits)
          · exact .inl (lead waits)

theorem lanesNextDue_isSome {world : World} : ∀ {lanes : List (Flow Bool)}, LanesConfined may true lanes →
    lanes ≠ [] → lanesReadyAt world lanes = none → (lanesNextDue lanes).isSome = true
  | [], _, nonempty, _ => absurd rfl nonempty
  | _ :: _, confined, _, waits =>
      earlier_isSome.mpr (.inl (nextDue_isSome confined.1 (earlier_eq_none.mp waits).1))

end

theorem nextDue_done {flow : Flow α} (done : flow.value?.isSome = true) : flow.nextDue = none := by
  obtain ⟨value, is⟩ := Option.isSome_iff_exists.mp done
  obtain rfl := value?_eq_some.mp is
  rfl

mutual

/-- When the time has come that a flow sleeps until, it can go on. -/
theorem readyAt_of_due {world : World} : ∀ {α : Type} {flow : Flow α} {due : Nat},
    flow.nextDue = some due → due ≤ world.clock → (flow.readyAt world).isSome = true
  | _, .done _, _, sleeps, _ => nomatch sleeps
  | _, .ask _ _, _, sleeps, _ => nomatch sleeps
  | _, .sleep _ _, _, sleeps, _ => nomatch sleeps
  | _, .asleep _ _ _, _, sleeps, passed => by
      cases sleeps
      simp [readyAt, passed]
  | _, .await _ _, _, sleeps, _ => nomatch sleeps
  | _, .both left right next, due, sleeps, passed => by
      have one : left.nextDue = some due → _ := fun sleeps => readyAt_of_due sleeps passed
      have two : right.nextDue = some due → _ := fun sleeps => readyAt_of_due sleeps passed
      simp only [nextDue] at sleeps
      simp only [readyAt]
      split
      next => rfl
      next done _ =>
        rcases earlier_eq_some sleeps with sleeps | sleeps
        · simp [nextDue_done done] at sleeps
        · exact two sleeps
      next _ done =>
        rcases earlier_eq_some sleeps with sleeps | sleeps
        · exact one sleeps
        · simp [nextDue_done done] at sleeps
      next => exact earlier_isSome.mpr ((earlier_eq_some sleeps).imp one two)
  | _, .first left right next, due, sleeps, passed => by
      simp only [nextDue] at sleeps
      refine earlier_isSome.mpr ?_
      exact (earlier_eq_some sleeps).imp (readyAt_of_due · passed) (readyAt_of_due · passed)
  | _, .race lanes started winner next, due, sleeps, passed => by
      have each : lanesNextDue lanes = some due → _ := fun sleeps => lanesReadyAt_of_due sleeps passed
      have lead : winner.nextDue = some due → _ := fun sleeps => readyAt_of_due sleeps passed
      cases started with
      | false =>
          cases lanes with
          | nil => cases sleeps
          | cons lane rest => exact each sleeps
      | true =>
          refine Option.isSome_iff_ne_none.mpr fun waits => ?_
          rcases raceReady_eq_none.mp waits with ⟨done, -, waits⟩ | ⟨winnerWaits, waits⟩
          · rcases earlier_eq_some sleeps with sleeps | sleeps
            · simp [nextDue_done done] at sleeps
            · simpa [waits] using each sleeps
          · rcases earlier_eq_some sleeps with sleeps | sleeps
            · simpa [winnerWaits] using lead sleeps
            · simpa [waits] using each sleeps

theorem lanesReadyAt_of_due {world : World} : ∀ {lanes : List (Flow Bool)} {due : Nat},
    lanesNextDue lanes = some due → due ≤ world.clock → (lanesReadyAt world lanes).isSome = true
  | [], _, sleeps, _ => nomatch sleeps
  | _ :: _, _, sleeps, passed => by
      simp only [lanesNextDue] at sleeps
      refine earlier_isSome.mpr ?_
      exact (earlier_eq_some sleeps).imp (readyAt_of_due · passed) (lanesReadyAt_of_due · passed)

end

end ConsentBanner.Flow

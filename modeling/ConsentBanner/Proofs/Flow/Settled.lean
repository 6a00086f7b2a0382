import ConsentBanner.Proofs.Flow.Failing

/-!
# Flows that have a page to themselves

A flow that only calls the page and sleeps settles there: it comes to a value, takes some time and leaves the
page in some state.  Flows in sequence settle one after the other, and in a rehearsal in which nothing else
happens a flow is played as it settles (`Flow.settle_play`).
-/

set_option autoImplicit false

namespace ConsentBanner

/-- What a flow comes to that has a page to itself. -/
structure Settled (α : Type) where
  value : α
  time : Nat
  page : Snapshot

/-- The same, begun later. -/
def Settled.later {α : Type} (settled : Settled α) (time : Nat) : Settled α :=
  { settled with time := time + settled.time }

namespace Flow

variable {α β : Type}

/-- What a flow comes to on a page.  There is nothing if the flow does anything but call the page and sleep. -/
def settle {α : Type} : Flow α → Snapshot → Option (Settled α)
  | .done value, page => some ⟨value, 0, page⟩
  | .ask (.page call) next, page => settle (next (page.perform call).1) (page.perform call).2
  | .sleep time next, page => (settle next page).map (·.later time)
  | _, _ => none

def settleOnward (f : α → Flow β) (first : Settled α) : Option (Settled β) :=
  (settle (f first.value) first.page).map (·.later first.time)

theorem settle_bind (f : α → Flow β) : ∀ (flow : Flow α) (page : Snapshot),
    (flow.bind f).settle page = (flow.settle page).bind (settleOnward f)
  | .done value, page => by simp [bind, settle, settleOnward, Settled.later]
  | .ask request next, page => by
      have onward := fun reply page => settle_bind f (next reply) page
      cases request with
      | page call => exact onward _ _
      | _ => rfl
  | .sleep time next, page => by
      rw [bind, settle, settle, settle_bind f next page]
      cases next.settle page with
      | none => rfl
      | some first => simp [settleOnward, Settled.later, Function.comp_def, Nat.add_assoc]
  | .asleep _ _ _, _ => rfl
  | .await _ _, _ => rfl
  | .both _ _ _, _ => rfl
  | .first _ _ _, _ => rfl
  | .race _ _ _ _, _ => rfl

variable {flow : Flow α} {page : Snapshot}

theorem settle_andThen {f : α → Flow β} {value : α} {result : β} {one two : Nat} {middle after : Snapshot}
    (settles : flow.settle page = some ⟨value, one, middle⟩)
    (onward : (f value).settle middle = some ⟨result, two, after⟩) :
    (flow.bind f).settle page = some ⟨result, one + two, after⟩ := by
  rw [settle_bind, settles, Option.bind_some, settleOnward, onward]
  rfl

end Flow

/-! ## Flows that may fail -/

def Succeeds {α ε : Type} (deed : ExceptT ε Flow α) (page : Snapshot) (value : α) (after : Snapshot) : Prop :=
  ∃ time, deed.run.settle page = some ⟨.ok value, time, after⟩

namespace Succeeds

variable {α β ε : Type} {page middle after : Snapshot} {value : α} {result : β}

theorem okay (value : α) (page : Snapshot) : Succeeds (pure value : ExceptT ε Flow α) page value page := ⟨0, rfl⟩

theorem chain {deed : ExceptT ε Flow α} {f : α → ExceptT ε Flow β} (first : Succeeds deed page value middle)
    (onward : Succeeds (f value) middle result after) : Succeeds (deed >>= f) page result after := by
  obtain ⟨one, first⟩ := first
  obtain ⟨two, onward⟩ := onward
  refine ⟨one + two, Flow.settle_andThen first ?_⟩
  exact onward

theorem call {call : PageCall α} (works : page.perform call = (.ok value, after)) :
    Succeeds (Lookup.call call) page value after := by
  refine ⟨0, ?_⟩
  change some (Settled.mk (page.perform call).1 0 (page.perform call).2) = _
  rw [works]

theorem look {lookup : Lookup α} (succeeds : Succeeds lookup page value after) :
    Succeeds (Deed.look lookup) page value after := by
  obtain ⟨time, settles⟩ := succeeds
  exact ⟨time + 0, Flow.settle_andThen settles rfl⟩

theorem pause (time : Nat) (page : Snapshot) : Succeeds (Deed.pause time) page () page := ⟨time + 0, rfl⟩

end Succeeds

/-! ## Playing a flow that settles -/

namespace Rehearsal

/-- Nothing is planned, and all messages were heard. -/
structure IsCalm (rehearsal : Rehearsal) : Prop where
  agenda : rehearsal.agenda = []
  heard : rehearsal.seen = rehearsal.world.sent.length

/-- A rehearsal after some time in which nothing happened but to the page, and so many sleeps. -/
def rested (rehearsal : Rehearsal) (time : Nat) (page : Snapshot) (order : Nat) : Rehearsal :=
  { rehearsal with
    world := { rehearsal.world with page := page, clock := rehearsal.world.clock + time, order := order } }

def ComesTo {α : Type} (rehearsal : Rehearsal) (flow : Flow α) (value : α) (last : Rehearsal) : Prop :=
  ∃ enough, ∀ fuel, enough ≤ fuel → playFlow fuel rehearsal flow = (some value, last)

variable {α : Type} {rehearsal last : Rehearsal} {flow : Flow α} {value : α}

theorem IsCalm.rested (calm : rehearsal.IsCalm) (time : Nat) (page : Snapshot) (order : Nat) :
    (rehearsal.rested time page order).IsCalm := ⟨calm.agenda, calm.heard⟩

theorem IsCalm.hearAll (calm : rehearsal.IsCalm) : rehearsal.hearAll = rehearsal := by
  rw [hearAll_of_heard (by rw [calm.heard, Nat.sub_self]), ← calm.heard]

/-- What is run at once is as good as done. -/
theorem ComesTo.ofRun {world : World} {moved : Flow α} (runs : flow.run rehearsal.world = moved.run world)
    (comes : ({ rehearsal with world := world } : Rehearsal).ComesTo moved value last) :
    rehearsal.ComesTo flow value last := by
  obtain ⟨enough, plays⟩ := comes
  refine ⟨enough + 1, fun fuel fits => ?_⟩
  have onward := plays fuel (Nat.le_of_succ_le fits)
  obtain ⟨fuel, rfl⟩ := Nat.exists_eq_add_of_le' (Nat.le_trans (Nat.le_add_left 1 enough) fits)
  rw [playFlow] at onward ⊢
  rw [runs]
  exact onward

theorem ComesTo.ofPlay {later : Rehearsal} {moved : Flow α}
    (play : ∀ fuel, playFlow (fuel + 1) rehearsal flow = playFlow fuel later moved)
    (comes : later.ComesTo moved value last) : rehearsal.ComesTo flow value last := by
  obtain ⟨enough, plays⟩ := comes
  refine ⟨enough + 1, fun fuel fits => ?_⟩
  obtain ⟨fuel, rfl⟩ := Nat.exists_eq_add_of_le' (Nat.le_trans (Nat.le_add_left 1 enough) fits)
  rw [play]
  exact plays fuel (Nat.le_of_succ_le_succ fits)

/-- Where nothing else happens, a sleeping flow is woken in time. -/
theorem IsCalm.wakes {time : Nat} {next : Flow α} (calm : rehearsal.IsCalm) (positive : time ≠ 0)
    (comes : (rehearsal.rested time rehearsal.world.page (rehearsal.world.order + 1)).ComesTo next value last) :
    rehearsal.ComesTo (.sleep time next) value last := by
  let due := rehearsal.world.clock + time
  let order := rehearsal.world.order
  let asleep : World := { rehearsal.world with order := order + 1 }
  have runs : (Flow.sleep time next).run rehearsal.world = (.asleep due order next, asleep) := by
    rw [Flow.run, if_neg positive]
  have waits : (Flow.asleep due order next).readyAt asleep = none :=
    if_neg (Nat.not_le.mpr (Nat.lt_add_of_pos_right (Nat.pos_of_ne_zero positive)))
  have still : IsCalm { rehearsal with world := asleep } := ⟨calm.agenda, calm.heard⟩
  have time : Proceeds ({ rehearsal with world := asleep } : Rehearsal).hearAll (Flow.asleep due order next)
      (rehearsal.rested time rehearsal.world.page (order + 1)) := by
    rw [still.hearAll]
    refine .time waits ?_ ?_
    · rw [still.agenda]
      rfl
    · rw [still.agenda]
      rfl
  refine .ofPlay (fun fuel => time.play runs rfl fuel) (.ofRun ?_ comes)
  rw [Flow.run]
  exact if_pos (Nat.le_refl due)

theorem rested_rested (rehearsal : Rehearsal) (one two : Nat) (page next : Snapshot) (order last : Nat) :
    (rehearsal.rested one page order).rested two next last = rehearsal.rested (one + two) next last := by
  simp only [rested, Nat.add_assoc]

/-- Where nothing else happens, a flow is played as it settles. -/
theorem IsCalm.play : ∀ (flow : Flow α) {rehearsal : Rehearsal}, rehearsal.IsCalm → ∀ {settled : Settled α},
    flow.settle rehearsal.world.page = some settled →
      ∃ order, rehearsal.ComesTo flow settled.value (rehearsal.rested settled.time settled.page order)
  | .done value, rehearsal, _, settled, settles => by
      cases settles
      refine ⟨rehearsal.world.order, 1, fun fuel positive => ?_⟩
      obtain ⟨fuel, rfl⟩ := Nat.exists_eq_add_of_le' positive
      rfl
  | .ask request next, rehearsal, calm, settled, settles => by
      have onward := fun reply later => @IsCalm.play (next reply) later
      cases request with
      | page call =>
          let world := { rehearsal.world with page := (rehearsal.world.page.perform call).2 }
          have runs : (Flow.ask (.page call) next).run rehearsal.world =
              (next (rehearsal.world.page.perform call).1).run world := rfl
          obtain ⟨order, comes⟩ := onward _ { rehearsal with world := world } ⟨calm.agenda, calm.heard⟩ settles
          exact ⟨order, .ofRun runs comes⟩
      | _ => cases settles
  | .sleep time next, rehearsal, calm, settled, settles => by
      obtain ⟨first, isFirst, rfl⟩ := Option.map_eq_some_iff.mp settles
      have onward := fun later => @IsCalm.play next later
      by_cases zero : time = 0
      · obtain ⟨order, comes⟩ := onward rehearsal calm isFirst
        subst zero
        refine ⟨order, .ofRun (if_pos rfl) ?_⟩
        rw [Settled.later, Nat.zero_add]
        exact comes
      · obtain ⟨order, comes⟩ := onward (rehearsal.rested time rehearsal.world.page (rehearsal.world.order + 1))
          (calm.rested _ _ _) isFirst
        rw [rested_rested] at comes
        exact ⟨order, calm.wakes zero comes⟩
  | .asleep _ _ _, _, _, _, settles => nomatch settles
  | .await _ _, _, _, _, settles => nomatch settles
  | .both _ _ _, _, _, _, settles => nomatch settles
  | .first _ _ _, _, _, _, settles => nomatch settles
  | .race _ _ _ _, _, _, _, settles => nomatch settles

end Rehearsal

end ConsentBanner

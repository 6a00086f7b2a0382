import ConsentBanner.Proofs.Flow.Consulted

/-!
# Watching a page

A watchful flow only reads the page and lets time pass.  So what it comes to, and when, is settled by how the page
replies at each moment (`Flow.watch`).  A flow that is run sees the page of one moment, and then either is done or
waits for a later one (`Flow.Watchful.staysWatching`).  Polling ends at the first of its moments at which the answer
is yes, or at the last of them (`Flow.watch_poll`).
-/

set_option autoImplicit false

namespace ConsentBanner

/-- A page over time: how it replies at each moment. -/
abbrev Timeline : Type 1 := Nat → FixedPage

namespace Flow

/-- What a flow comes to that begins at some moment, and when.  There is nothing if it does anything but call the
page, sleep, and run two such flows side by side for the first to be done; of two that are done at the same moment
the left one is first. -/
def watch (pages : Timeline) : {α : Type} → Flow α → Nat → Option (α × Nat)
  | _, .done value, now => some (value, now)
  | _, .ask (.page call) next, now => watch pages (next ((pages now).reply call)) now
  | _, .sleep time next, now => watch pages next (now + time)
  | _, .asleep due _ next, now => watch pages next (max now due)
  | _, .first left right next, now =>
    match watch pages left now, watch pages right now with
    | some (a, one), some (b, two) => if one ≤ two then watch pages (next a) one else watch pages (next b) two
    | _, _ => none
  | _, _, _ => none

/-- A flow only reads the page and lets time pass. -/
inductive Watchful : {α : Type} → Flow α → Prop where
  | done {α : Type} (value : α) : Watchful (.done value)
  | ask {α β : Type} {call : PageCall β} {next : Except PageError β → Flow α} (reads : call.Reads)
      (onward : ∀ reply, Watchful (next reply)) : Watchful (.ask (.page call) next)
  | sleep {α : Type} {time : Nat} {next : Flow α} (onward : Watchful next) : Watchful (.sleep time next)
  | asleep {α : Type} {due order : Nat} {next : Flow α} (onward : Watchful next) : Watchful (.asleep due order next)
  | first {α β : Type} {left right : Flow β} {next : β → Flow α} (one : Watchful left) (two : Watchful right)
      (onward : ∀ value, Watchful (next value)) : Watchful (.first left right next)

inductive Waits (now : Nat) : {α : Type} → Flow α → Prop where
  | asleep {α : Type} {due order : Nat} {next : Flow α} (later : now < due) : Waits now (.asleep due order next)
  | first {α β : Type} {left right : Flow β} {next : β → Flow α} (one : Waits now left) (two : Waits now right) :
      Waits now (.first left right next)

variable {α β : Type} {pages : Timeline} {flow : Flow α} {f : α → Flow β} {now : Nat}

theorem watch_bind (f : α → Flow β) : ∀ (flow : Flow α) (now : Nat),
    (flow.bind f).watch pages now = (flow.watch pages now).bind fun ends => (f ends.1).watch pages ends.2
  | .done value, now => by simp only [bind, watch, Option.bind_some]
  | .ask request next, now => by
      have onward := fun reply => watch_bind f (next reply) now
      cases request with
      | page call => simpa only [bind, watch] using onward _
      | _ => rfl
  | .sleep time next, now => by simpa only [bind, watch] using watch_bind f next (now + time)
  | .asleep due _ next, now => by simpa only [bind, watch] using watch_bind f next (max now due)
  | .first left right next, now => by
      have onward := fun value time => watch_bind f (next value) time
      simp only [bind, watch]
      cases watch pages left now with
      | none => rfl
      | some one =>
          cases watch pages right now with
          | none => rfl
          | some two =>
              dsimp only
              split
              · exact onward _ _
              · exact onward _ _
  | .await _ _, _ => rfl
  | .both _ _ _, _ => rfl
  | .race _ _ _ _, _ => rfl

/-- A glance comes at once to what it comes to on the page of that moment. -/
theorem IsGlance.watch {value : α} (glance : flow.IsGlance) (comes : flow.consult (pages now) = some value) :
    flow.watch pages now = some (value, now) := by
  induction glance with
  | done _ =>
      cases comes
      rfl
  | ask _ _ ih => exact ih _ comes

namespace Watchful

theorem ofGlance (glance : flow.IsGlance) : flow.Watchful := by
  induction glance with
  | done value => exact .done value
  | ask reads _ ih => exact .ask reads ih

theorem bind (first : flow.Watchful) (onward : ∀ value, (f value).Watchful) : (flow.bind f).Watchful := by
  induction first with
  | done value => exact onward value
  | ask reads _ ih => exact .ask reads fun reply => ih reply onward
  | sleep _ ih => exact .sleep (ih onward)
  | asleep _ ih => exact .asleep (ih onward)
  | first one two _ _ _ ih => exact .first one two fun value => ih value onward

theorem poll {attempt : Flow Bool} (interval : Nat) (watchful : attempt.Watchful) (retries : Nat) :
    (Flow.poll attempt interval retries).Watchful := by
  induction retries with
  | zero => exact watchful
  | succ retries ih =>
      refine watchful.bind fun yes => ?_
      cases yes with
      | true => exact .done true
      | false => exact .sleep ih

theorem anyOf : ∀ {others : List (Flow α)} {flow : Flow α}, flow.Watchful →
    (∀ other ∈ others, other.Watchful) → (Flow.anyOf flow others).Watchful := by
  intro others
  induction others with
  | nil => exact fun watchful _ => watchful
  | cons other rest ih =>
      intro flow watchful all
      obtain ⟨here, there⟩ := List.forall_mem_cons.mp all
      exact .first watchful (ih here there) .done

/-- A watchful flow waits for nothing but time. -/
theorem confined (watchful : flow.Watchful) : flow.Confined Request.Reads true := by
  induction watchful with
  | done value => exact .done value
  | ask reads _ ih => exact ⟨⟨reads, trivial⟩, ih⟩
  | sleep _ ih => exact ih
  | asleep _ ih => exact ih
  | first _ _ _ ihLeft ihRight ih => exact ⟨.inl ⟨ihLeft, ihRight.open_⟩, ih⟩

/-- Whatever the page replies, a watchful flow comes to a value, and not before it begins. -/
theorem comes (watchful : flow.Watchful) (pages : Timeline) (now : Nat) :
    ∃ value time, flow.watch pages now = some (value, time) ∧ now ≤ time := by
  induction watchful generalizing now with
  | done value => exact ⟨value, now, rfl, Nat.le_refl now⟩
  | @ask _ _ call _ _ _ ih => exact ih ((pages now).reply call) now
  | @sleep _ time _ _ ih =>
      obtain ⟨value, last, ends, within⟩ := ih (now + time)
      exact ⟨value, last, ends, Nat.le_trans (Nat.le_add_right now time) within⟩
  | @asleep _ due _ _ _ ih =>
      obtain ⟨value, last, ends, within⟩ := ih (max now due)
      exact ⟨value, last, ends, Nat.le_trans (Nat.le_max_left now due) within⟩
  | first _ _ _ ihLeft ihRight ih =>
      obtain ⟨a, one, left, first⟩ := ihLeft now
      obtain ⟨b, two, right, second⟩ := ihRight now
      simp only [Flow.watch, left, right]
      split
      · obtain ⟨value, last, ends, within⟩ := ih a one
        exact ⟨value, last, ends, Nat.le_trans first within⟩
      · obtain ⟨value, last, ends, within⟩ := ih b two
        exact ⟨value, last, ends, Nat.le_trans second within⟩

end Watchful

namespace Waits

theorem pending (waits : flow.Waits now) : flow.value? = none := by
  cases waits <;> rfl

theorem nextDue (waits : flow.Waits now) : ∃ due, flow.nextDue = some due ∧ now < due := by
  induction waits with
  | @asleep _ due _ _ later => exact ⟨due, rfl, later⟩
  | first _ _ ihLeft ihRight =>
      obtain ⟨one, left, first⟩ := ihLeft
      obtain ⟨two, right, second⟩ := ihRight
      refine ⟨min one two, ?_, Nat.lt_min.mpr ⟨first, second⟩⟩
      rw [Flow.nextDue, left, right]
      rfl

theorem readyAt {world : World} (waits : flow.Waits world.clock) : flow.readyAt world = none := by
  induction waits with
  | asleep later => exact if_neg (Nat.not_le.mpr later)
  | first _ _ ihLeft ihRight =>
      rw [Flow.readyAt, ihLeft, ihRight]
      rfl

/-- A flow that waits is not taken further. -/
theorem run {world : World} (waits : flow.Waits world.clock) : flow.run world = (flow, world) := by
  induction waits with
  | asleep later => exact if_neg (Nat.not_le.mpr later)
  | first one two ihLeft ihRight =>
      rw [Flow.run, ihLeft]
      simp only [one.pending]
      rw [ihRight]
      simp only [two.pending]

theorem later (waits : flow.Waits now) (watchful : flow.Watchful) :
    ∀ {value : α} {time : Nat}, flow.watch pages now = some (value, time) → now < time := by
  induction waits with
  | @asleep _ due _ next later =>
      intro value time ends
      cases watchful with
      | asleep onward =>
          obtain ⟨other, last, is, within⟩ := onward.comes pages (max now due)
          obtain ⟨-, rfl⟩ := Prod.mk.inj (Option.some.inj (ends.symm.trans is))
          exact Nat.lt_of_lt_of_le later (Nat.le_trans (Nat.le_max_right now due) within)
  | first _ _ ihLeft ihRight =>
      intro value time ends
      cases watchful with
      | first one two onward =>
          obtain ⟨a, first, left, -⟩ := one.comes pages now
          obtain ⟨b, second, right, -⟩ := two.comes pages now
          simp only [Flow.watch, left, right] at ends
          split at ends
          · obtain ⟨other, last, is, within⟩ := (onward a).comes pages first
            obtain ⟨-, rfl⟩ := Prod.mk.inj (Option.some.inj (ends.symm.trans is))
            exact Nat.lt_of_lt_of_le (ihLeft one left) within
          · obtain ⟨other, last, is, within⟩ := (onward b).comes pages second
            obtain ⟨-, rfl⟩ := Prod.mk.inj (Option.some.inj (ends.symm.trans is))
            exact Nat.lt_of_lt_of_le (ihRight two right) within

/-- Until the first thing happens that a flow waits for, nothing is lost by waiting. -/
theorem watch_later (waits : flow.Waits now) {time : Nat}
    (inTime : ∀ due, flow.nextDue = some due → time ≤ due) : flow.watch pages time = flow.watch pages now := by
  induction waits with
  | @asleep _ due _ next later =>
      rw [watch, watch, Nat.max_eq_right (inTime due rfl), Nat.max_eq_right (Nat.le_of_lt later)]
  | first one two ihLeft ihRight =>
      obtain ⟨first, left, -⟩ := one.nextDue
      obtain ⟨second, right, -⟩ := two.nextDue
      have within : time ≤ min first second := inTime _ (by rw [Flow.nextDue, left, right]; rfl)
      obtain ⟨before, other⟩ := Nat.le_min.mp within
      have sameLeft := ihLeft fun due is => Option.some.inj (left.symm.trans is) ▸ before
      have sameRight := ihRight fun due is => Option.some.inj (right.symm.trans is) ▸ other
      rw [watch, watch, sameLeft, sameRight]

end Waits

/-- How a watchful flow is left when it was run: it has seen the page of the moment, done nothing, and what it comes
to is the same as before; if it is not done, it waits for a later moment. -/
structure LeftWatching (pages : Timeline) (flow : Flow α) (world : World) (moved : Flow α) (after : World) :
    Prop where
  page : after.page = world.page
  ledger : after.ledger = world.ledger
  watchful : moved.Watchful
  watch : moved.watch pages world.clock = flow.watch pages world.clock
  rests : moved.value? = none → moved.Waits world.clock

namespace LeftWatching

variable {world after : World} {moved : Flow α}

theorem self (watchful : flow.Watchful) (rests : flow.value? = none → flow.Waits world.clock) :
    LeftWatching pages flow world flow world := ⟨rfl, rfl, watchful, rfl, rests⟩

/-- What goes on as another flow at the same moment. -/
theorem via {γ : Type} {other moved : Flow γ} {between : World}
    (left : LeftWatching pages other between moved after) (page : between.page = world.page)
    (ledger : between.ledger = world.ledger) (clock : between.clock = world.clock) {flow : Flow γ}
    (same : flow.watch pages world.clock = other.watch pages world.clock) :
    LeftWatching pages flow world moved after :=
  ⟨left.page.trans page, left.ledger.trans ledger, left.watchful, by rw [same, ← clock, left.watch],
    clock ▸ left.rests⟩

end LeftWatching

def StaysWatching (pages : Timeline) (flow : Flow α) : Prop :=
  ∀ world : World, pages world.clock = .ofSnapshot world.page →
    LeftWatching pages flow world (flow.run world).1 (flow.run world).2

theorem StaysWatching.ask {call : PageCall β} {next : Except PageError β → Flow α} (reads : call.Reads)
    (onward : ∀ reply, (next reply).StaysWatching pages) : (Flow.ask (.page call) next).StaysWatching pages := by
  intro world shows
  rw [run, world.answer_of_reads reads]
  refine (onward _ world shows).via rfl rfl rfl ?_
  rw [watch, shows]
  rfl

theorem StaysWatching.sleep {time : Nat} {next : Flow α} (watchful : next.Watchful)
    (onward : next.StaysWatching pages) : (Flow.sleep time next).StaysWatching pages := by
  intro world shows
  rw [run]
  split
  next short =>
    refine (onward world shows).via rfl rfl rfl ?_
    rw [watch, short, Nat.add_zero]
  next long =>
    have later : world.clock < world.clock + time := Nat.lt_add_of_pos_right (Nat.pos_of_ne_zero long)
    refine ⟨rfl, rfl, .asleep watchful, ?_, fun _ => .asleep later⟩
    rw [watch, watch, Nat.max_eq_right (Nat.le_of_lt later)]

theorem StaysWatching.asleep {due order : Nat} {next : Flow α} (watchful : next.Watchful)
    (onward : next.StaysWatching pages) : (Flow.asleep due order next).StaysWatching pages := by
  intro world shows
  rw [run]
  split
  next awake =>
    refine (onward world shows).via rfl rfl rfl ?_
    rw [watch, Nat.max_eq_left awake]
  next early => exact .self (.asleep watchful) fun _ => .asleep (Nat.lt_of_not_le early)

theorem StaysWatching.first {left right : Flow β} {next : β → Flow α} (two : right.Watchful)
    (watchful : ∀ value, (next value).Watchful) (onLeft : left.StaysWatching pages)
    (onRight : right.StaysWatching pages) (onward : ∀ value, (next value).StaysWatching pages) :
    (Flow.first left right next).StaysWatching pages := by
  intro world shows
  have first := onLeft world shows
  have clock := left.run_clock world
  rw [run]
  generalize left.run world = result at first clock
  obtain ⟨l, middle⟩ := result
  dsimp only at first clock ⊢
  have shown : pages middle.clock = .ofSnapshot middle.page := by rw [clock, shows, first.page]
  obtain ⟨b, last, isRight, within⟩ := two.comes pages world.clock
  cases done : l.value? with
  | some a =>
      obtain rfl := value?_eq_some.mp done
      have isLeft : left.watch pages world.clock = some (a, world.clock) := first.watch.symm
      refine (onward a (middle.forget right.awaited) shown).via first.page first.ledger clock ?_
      simp only [watch, isLeft, isRight, if_pos within]
  | none =>
      have second := onRight middle shown
      have later := right.run_clock middle
      generalize right.run middle = result at second later
      obtain ⟨r, after⟩ := result
      dsimp only at second later ⊢
      have waits := first.rests done
      have sameRight : r.watch pages world.clock = right.watch pages world.clock := clock ▸ second.watch
      cases ended : r.value? with
      | some b =>
          -- The left flow waits for a later moment, so the right one is first.
          obtain rfl := value?_eq_some.mp ended
          have isRight : right.watch pages world.clock = some (b, world.clock) := sameRight.symm
          obtain ⟨a, time, isLeft, -⟩ := first.watchful.comes pages world.clock
          have beyond := waits.later first.watchful isLeft
          rw [first.watch] at isLeft
          have still : pages after.clock = .ofSnapshot after.page := by rw [later, shown, second.page]
          refine (onward b (after.forget l.awaited) still).via (second.page.trans first.page)
            (second.ledger.trans first.ledger) (later.trans clock) ?_
          simp only [watch, isLeft, isRight, if_neg (Nat.not_le.mpr beyond)]
      | none =>
          refine ⟨second.page.trans first.page, second.ledger.trans first.ledger,
            .first first.watchful second.watchful watchful, ?_, fun _ => .first waits (clock ▸ second.rests ended)⟩
          rw [watch, watch, first.watch, sameRight]

/-- A watchful flow that is run sees the page of the moment, and then either is done or waits for a later one. -/
theorem Watchful.staysWatching (watchful : flow.Watchful) : flow.StaysWatching pages := by
  induction watchful with
  | done value => exact fun world _ => .self (.done value) nofun
  | ask reads _ ih => exact .ask reads ih
  | sleep onward ih => exact .sleep onward ih
  | asleep onward ih => exact .asleep onward ih
  | first _ two onward ihLeft ihRight ih => exact .first two onward ihLeft ihRight ih

/-! ## Polling -/

/-- How asking at regular moments ends: with yes at the first of them at which the answer is yes, and with no at the
last of them if there is none.  The number is that of the moments after the first. -/
inductive EndsPolling (yes : Nat → Bool) (begin interval retries : Nat) : Bool → Nat → Prop where
  | found {place time : Nat} (within : place ≤ retries) (moment : time = begin + place * interval)
      (holds : yes time = true) (least : ∀ earlier, earlier < place → yes (begin + earlier * interval) = false) :
      EndsPolling yes begin interval retries true time
  | spent {time : Nat} (moment : time = begin + retries * interval)
      (never : ∀ place, place ≤ retries → yes (begin + place * interval) = false) :
      EndsPolling yes begin interval retries false time

theorem moment_succ (begin interval place : Nat) :
    begin + (place + 1) * interval = begin + interval + place * interval := by
  rw [Nat.succ_mul]
  omega

namespace EndsPolling

variable {yes : Nat → Bool} {begin interval retries time : Nat} {answer : Bool}

theorem atOnce (holds : yes begin = true) : EndsPolling yes begin interval retries true begin :=
  .found (Nat.zero_le retries) (by simp) holds nofun

theorem onlyOnce (fails : yes begin = false) : EndsPolling yes begin interval 0 false begin := by
  refine .spent (by simp) fun place within => ?_
  obtain rfl := Nat.le_zero.mp within
  simpa using fails

/-- The first moment is passed over at which the answer is no. -/
theorem later (fails : yes begin = false) (ends : EndsPolling yes (begin + interval) interval retries answer time) :
    EndsPolling yes begin interval (retries + 1) answer time := by
  cases ends with
  | @found place time within moment holds least =>
      refine .found (Nat.succ_le_succ within) (moment.trans (moment_succ begin interval place).symm) holds ?_
      intro earlier before
      cases earlier with
      | zero => simpa using fails
      | succ earlier => exact moment_succ begin interval earlier ▸ least earlier (Nat.lt_of_succ_lt_succ before)
  | spent moment never =>
      refine .spent (moment.trans (moment_succ begin interval retries).symm) fun place within => ?_
      cases place with
      | zero => simpa using fails
      | succ place => exact moment_succ begin interval place ▸ never place (Nat.le_of_succ_le_succ within)

/-- Polling is over by the last moment. -/
theorem inTime (ends : EndsPolling yes begin interval retries answer time) :
    begin ≤ time ∧ time ≤ begin + retries * interval := by
  cases ends with
  | found within moment _ _ =>
      have most := Nat.mul_le_mul_right interval within
      omega
  | spent moment _ => omega

end EndsPolling

/-- Polling with an attempt that takes no time asks at regular moments, beginning at once. -/
theorem watch_poll {attempt : Flow Bool} {yes : Nat → Bool}
    (asks : ∀ now, attempt.watch pages now = some (yes now, now)) (interval retries : Nat) :
    ∀ begin, ∃ answer time, (poll attempt interval retries).watch pages begin = some (answer, time) ∧
      EndsPolling yes begin interval retries answer time := by
  induction retries with
  | zero =>
      intro begin
      refine ⟨yes begin, begin, asks begin, ?_⟩
      cases holds : yes begin with
      | true => exact .atOnce holds
      | false => exact .onlyOnce holds
  | succ retries ih =>
      intro begin
      obtain ⟨answer, time, ends, law⟩ := ih (begin + interval)
      rw [poll, watch_bind, asks begin, Option.bind_some]
      cases holds : yes begin with
      | true => exact ⟨true, begin, rfl, .atOnce holds⟩
      | false => exact ⟨answer, time, ends, law.later holds⟩

end Flow

end ConsentBanner

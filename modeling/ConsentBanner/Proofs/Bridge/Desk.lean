import ConsentBanner.Proofs.Bridge.History
import ConsentBanner.Proofs.Bridge.Table
import ConsentBanner.Proofs.Lists

/-!
# Requests side by side

At a desk any number of requests for page script are in progress at the same time.  They are made, taken
further and dropped in any order, answers to anything are handed in at any time, and time passes while
all of them rest, up to the next deadline.  Main statement: `Desk.run_faithful`, what became of each
request and which of them are open at any time.
-/

set_option autoImplicit false

namespace ConsentBanner

/-- A request in progress. -/
structure Inquiry where
  id : String
  flow : Flow (Except ConsentError Json)

/-- A world with the requests that are in progress in it, and all that happened to requests so far. -/
structure Desk where
  world : World
  inquiries : List Inquiry
  log : List Entry

namespace Desk

/-- The desk after a request was taken further: it leaves when it has come to a result. -/
def settle (ahead behind : List Inquiry) (log : List Entry) (id : String)
    (ran : Flow (Except ConsentError Json) × World) : Desk :=
  match ran.1.value? with
  | some result => ⟨ran.2, ahead ++ behind, log ++ [⟨ran.2.clock, id, .returned result⟩]⟩
  | none => ⟨ran.2, ahead ++ ⟨id, ran.1⟩ :: behind, log⟩

inductive Step (timings : Timings) : Desk → Desk → Prop where
  | ask (world : World) (inquiries : List Inquiry) (log : List Entry) (code : String) :
      Step timings ⟨world, inquiries, log⟩
        (settle inquiries []
          (log ++ [⟨world.clock, world.bridge.nextId, .asked code (world.clock + timings.eval)⟩])
          world.bridge.nextId ((Primitive.request timings code).run world))
  | resolve (world : World) (inquiries : List Inquiry) (log : List Entry) (id : String) (value : Json) :
      Step timings ⟨world, inquiries, log⟩ ⟨(world.resolve id value).2, inquiries,
        log ++ [⟨world.clock, id, .resolved value (world.resolve id value).1⟩]⟩
  | poll (world : World) (ahead : List Inquiry) (inquiry : Inquiry) (behind : List Inquiry) (log : List Entry) :
      Step timings ⟨world, ahead ++ inquiry :: behind, log⟩
        (settle ahead behind log inquiry.id (inquiry.flow.run world))
  | drop (world : World) (ahead : List Inquiry) (inquiry : Inquiry) (behind : List Inquiry) (log : List Entry) :
      Step timings ⟨world, ahead ++ inquiry :: behind, log⟩
        ⟨world.forget inquiry.flow.awaited, ahead ++ behind, log ++ [⟨world.clock, inquiry.id, .dropped⟩]⟩
  /-- Time passes where all requests rest, and not beyond their deadlines. -/
  | wait (world : World) (inquiries : List Inquiry) (log : List Entry) (clock : Nat)
      (later : world.clock ≤ clock) (rests : ∀ inquiry ∈ inquiries, inquiry.flow.readyAt world = none)
      (inTime : ∀ inquiry ∈ inquiries, ∀ due, inquiry.flow.nextDue = some due → clock ≤ due) :
      Step timings ⟨world, inquiries, log⟩ ⟨{ world with clock := clock }, inquiries, log⟩
  /-- Anything else happens that is not about requests for page script. -/
  | aside (world after : World) (inquiries : List Inquiry) (log : List Entry)
      (bridge : after.bridge = world.bridge) (clock : after.clock = world.clock)
      (sent : world.sent <+: after.sent) :
      Step timings ⟨world, inquiries, log⟩ ⟨after, inquiries, log⟩

/-- Any number of steps. -/
inductive Run (timings : Timings) : Desk → Desk → Prop where
  | refl (desk : Desk) : Run timings desk desk
  | step {first middle last : Desk} (run : Run timings first middle) (next : Step timings middle last) :
      Run timings first last

/-- A request in progress is within its time, and has only just been answered if it has been. -/
inductive InTime (clock due : Nat) : Standing → Prop where
  | waiting (within : clock ≤ due) : InTime clock due (.waiting due)
  | answered (value : Json) (within : clock ≤ due) : InTime clock due (.answered due value clock)

theorem InTime.isOpen {clock due : Nat} {standing : Standing} (inTime : InTime clock due standing) :
    standing.isOpen = true := by
  cases inTime <;> rfl

/-- What is found true of a request in progress. -/
def Underway (clock : Nat) (log : List Entry) (inquiry : Inquiry) : Prop :=
  ∃ due order, inquiry.flow = inquiring inquiry.id due order ∧ InTime clock due (standing log inquiry.id)

theorem Underway.isOpen {clock : Nat} {log : List Entry} {inquiry : Inquiry}
    (underway : Underway clock log inquiry) : (standing log inquiry.id).isOpen = true := by
  obtain ⟨_, _, -, inTime⟩ := underway
  exact inTime.isOpen

theorem Underway.other {clock : Nat} {log : List Entry} {inquiry : Inquiry} {entry : Entry}
    (underway : Underway clock log inquiry) (other : entry.id ≠ inquiry.id) :
    Underway clock (log ++ [entry]) inquiry := by
  obtain ⟨due, order, is, inTime⟩ := underway
  refine ⟨due, order, is, ?_⟩
  rw [standing_snoc, if_neg other]
  exact inTime

/-- What is found true of a desk between two steps. -/
structure Tidy (timings : Timings) (desk : Desk) : Prop where
  tells : desk.world.bridge.Tells desk.log
  underway : ∀ inquiry ∈ desk.inquiries, Underway desk.world.clock desk.log inquiry
  apart : (desk.inquiries.map Inquiry.id).Nodup
  known : ∀ id, (standing desk.log id).isOpen = true → id ∈ desk.inquiries.map Inquiry.id
  rightly : Throughout (Rightly timings) desk.log
  sent : ∀ entry ∈ desk.log, ∀ code due, entry.event = .asked code due →
    .evalRequest entry.id code ∈ desk.world.sent

namespace Tidy

variable {timings : Timings} {world : World} {inquiries ahead behind : List Inquiry} {inquiry : Inquiry}
  {log : List Entry}

theorem start (timings : Timings) {world : World} (idle : world.bridge = .empty) :
    Tidy timings ⟨world, [], []⟩ :=
  ⟨idle ▸ .empty, nofun, List.nodup_nil, nofun, .nil, nofun⟩

/-- What holds of the requests in progress when one more is among them. -/
theorem members (tidy : Tidy timings ⟨world, ahead ++ inquiry :: behind, log⟩) :
    Underway world.clock log inquiry ∧
      ∀ other ∈ ahead ++ behind, Underway world.clock log other ∧ inquiry.id ≠ other.id := by
  refine ⟨tidy.underway inquiry (by simp), fun other member => ⟨tidy.underway other ?_, ?_⟩⟩
  · exact subset_insert inquiry ahead behind member
  · have apart := tidy.apart
    simp only at apart
    rw [List.perm_middle.map Inquiry.id |>.nodup_iff, List.map_cons, List.nodup_cons] at apart
    exact fun same => apart.1 (same ▸ List.mem_map_of_mem member)

/-- When a request has come to an end, the desk is tidy again. -/
theorem close (tidy : Tidy timings ⟨world, ahead ++ inquiry :: behind, log⟩) {entry : Entry}
    (about : entry.id = inquiry.id) (asks : entry.event.asks = false)
    (closed : ((standing log entry.id).after entry).isOpen = false) (rightly : Rightly timings log entry) :
    Tidy timings ⟨world.forget [inquiry.id], ahead ++ behind, log ++ [entry]⟩ := by
  obtain ⟨underway, others⟩ := tidy.members
  have isOpen : (standing log entry.id).isOpen = true := about ▸ underway.isOpen
  refine ⟨about ▸ tidy.tells.forget isOpen asks closed, fun other member => ?_, ?_, fun id isOpen => ?_,
    tidy.rightly.snoc rightly, fun old member code due is => ?_⟩
  · obtain ⟨held, apart⟩ := others other member
    exact held.other (about.trans_ne apart)
  · refine tidy.apart.sublist (List.Sublist.map _ ?_)
    exact (List.Sublist.refl ahead).append (List.sublist_cons_self inquiry behind)
  · simp only [standing_snoc] at isOpen
    by_cases same : entry.id = id
    · subst same
      rw [if_pos rfl, closed] at isOpen
      cases isOpen
    · rw [if_neg same] at isOpen
      have member := tidy.known id isOpen
      simp only [List.map_append, List.map_cons, List.mem_append, List.mem_cons] at member ⊢
      rcases member with before | rfl | after
      · exact .inl before
      · exact absurd about same
      · exact .inr after
  · rcases List.mem_append.mp member with old | new
    · exact tidy.sent _ old code due is
    · obtain rfl := List.mem_singleton.mp new
      rw [is] at asks
      cases asks

theorem drop (tidy : Tidy timings ⟨world, ahead ++ inquiry :: behind, log⟩) :
    Tidy timings ⟨world.forget inquiry.flow.awaited, ahead ++ behind,
      log ++ [⟨world.clock, inquiry.id, .dropped⟩]⟩ := by
  obtain ⟨⟨due, order, is, inTime⟩, -⟩ := tidy.members
  rw [is, inquiring_awaited]
  exact tidy.close rfl rfl (by rw [Standing.after_dropped inTime.isOpen]; rfl) inTime.isOpen

/-- A request in progress takes the answer that is there, gives up at its deadline, or rests. -/
theorem ran (tidy : Tidy timings ⟨world, ahead ++ inquiry :: behind, log⟩) :
    (∃ result, inquiry.flow.run world = (.done result, world.forget [inquiry.id]) ∧
      Rightly timings log ⟨world.clock, inquiry.id, .returned result⟩) ∨
    inquiry.flow.run world = (inquiry.flow, world) ∧ inquiry.flow.readyAt world = none ∧
      ∃ due, inquiry.flow.nextDue = some due ∧ standing log inquiry.id = .waiting due ∧ world.clock < due := by
  obtain ⟨⟨due, order, is, inTime⟩, -⟩ := tidy.members
  have answers := tidy.tells.answers inquiry.id
  generalize known : standing log inquiry.id = standing' at inTime answers
  simp only at answers
  cases inTime with
  | answered value within =>
      obtain ⟨⟨_, place⟩, answered, rfl⟩ := Option.map_eq_some_iff.mp answers
      exact .inl ⟨_, is ▸ inquiring_run_answered answered, .inl ⟨due, _, known, within, rfl⟩⟩
  | waiting within =>
      have unanswered := Option.map_eq_none_iff.mp answers
      have pending : inquiry.id ∈ world.bridge.pending := tidy.tells.mem_pending.mpr (known ▸ rfl)
      rcases Nat.eq_or_lt_of_le within with now | early
      · subst now
        exact .inl ⟨_, is ▸ inquiring_run_due unanswered pending (Nat.le_refl _), .inr ⟨known, rfl⟩⟩
      · refine .inr ⟨?_, ?_, due, is ▸ inquiring_nextDue, rfl, early⟩
        · rw [is]
          exact inquiring_run_early unanswered pending early
        · rw [is]
          exact inquiring_rests unanswered pending early

theorem poll (tidy : Tidy timings ⟨world, ahead ++ inquiry :: behind, log⟩) :
    Tidy timings (settle ahead behind log inquiry.id (inquiry.flow.run world)) := by
  rcases tidy.ran with ⟨result, ran, rightly⟩ | ⟨ran, -, due, next, -⟩
  · have isOpen := tidy.members.1.isOpen
    rw [ran]
    exact tidy.close rfl rfl (by rw [Standing.after_returned isOpen]; rfl) rightly
  · have pending : inquiry.flow.value? = none := by
      cases flow : inquiry.flow <;> first | rfl | (rw [flow] at next; cases next)
    rw [ran, settle]
    simp only [pending]
    exact tidy

/-- A request that was just made waits for its answer. -/
theorem begin (tidy : Tidy timings ⟨world, inquiries, log⟩) (code : String) (order order' : Nat) :
    Tidy timings ⟨{ world.openEval code with order := order' },
      inquiries ++ [⟨world.bridge.nextId, inquiring world.bridge.nextId (world.clock + timings.eval) order⟩],
      log ++ [⟨world.clock, world.bridge.nextId, .asked code (world.clock + timings.eval)⟩]⟩ := by
  have unknown : standing log world.bridge.nextId = .unknown := tidy.tells.next
  have apart : ∀ other ∈ inquiries, world.bridge.nextId ≠ other.id := by
    intro other member same
    have isOpen := (tidy.underway other member).isOpen
    rw [← same, unknown] at isOpen
    cases isOpen
  refine ⟨tidy.tells.openNext code _ _, fun other member => ?_, ?_, fun id isOpen => ?_,
    tidy.rightly.snoc ⟨unknown, rfl⟩, fun entry member asked due is => ?_⟩
  · rcases List.mem_append.mp member with old | new
    · exact (tidy.underway other old).other (apart other old)
    · obtain rfl := List.mem_singleton.mp new
      refine ⟨_, _, rfl, ?_⟩
      rw [standing_snoc, if_pos rfl, unknown]
      exact .waiting (Nat.le_add_right _ _)
  · rw [List.map_append, List.nodup_append]
    refine ⟨tidy.apart, by simp, fun id old other new => ?_⟩
    obtain ⟨inquiry, member, rfl⟩ := List.mem_map.mp old
    obtain rfl : other = world.bridge.nextId := by simpa using new
    exact Ne.symm (apart inquiry member)
  · simp only [standing_snoc] at isOpen
    rw [List.map_append, List.mem_append]
    by_cases same : world.bridge.nextId = id
    · exact .inr (by simp [same])
    · rw [if_neg same] at isOpen
      exact .inl (tidy.known id isOpen)
  · rcases List.mem_append.mp member with old | new
    · exact List.mem_append_left _ (tidy.sent entry old asked due is)
    · obtain rfl := List.mem_singleton.mp new
      obtain ⟨rfl, -⟩ := Event.asked.inj is
      simp [World.openEval, World.send]

theorem ask (tidy : Tidy timings ⟨world, inquiries, log⟩) (code : String) :
    Tidy timings (settle inquiries []
      (log ++ [⟨world.clock, world.bridge.nextId, .asked code (world.clock + timings.eval)⟩])
      world.bridge.nextId ((Primitive.request timings code).run world)) := by
  have fresh : world.bridge.answer? world.bridge.nextId = none := by
    have answers := tidy.tells.answers world.bridge.nextId
    rw [tidy.tells.next] at answers
    exact Option.map_eq_none_iff.mp answers
  rw [request_run fresh]
  by_cases zero : timings.eval = 0
  · have begun := tidy.begin code 0 world.order
    have waits : standing (log ++ [⟨world.clock, world.bridge.nextId, .asked code (world.clock + timings.eval)⟩])
        world.bridge.nextId = .waiting world.clock := by
      rw [standing_snoc, if_pos rfl, tidy.tells.next, zero]
      rfl
    rw [if_pos zero]
    exact begun.close rfl rfl (by rw [waits]; rfl) (.inr ⟨waits, rfl⟩)
  · rw [if_neg zero]
    exact tidy.begin code _ _

theorem resolve (tidy : Tidy timings ⟨world, inquiries, log⟩) (id : String) (value : Json) :
    Tidy timings ⟨(world.resolve id value).2, inquiries,
      log ++ [⟨world.clock, id, .resolved value (world.resolve id value).1⟩]⟩ := by
  obtain ⟨accepted, tells⟩ := tidy.tells.resolve id value world.order world.clock
  have isOpen : ∀ other, (standing (log ++ [⟨world.clock, id, .resolved value (world.resolve id value).1⟩])
      other).isOpen = (standing log other).isOpen := by
    intro other
    rw [standing_snoc]
    split
    next about =>
      subst about
      cases standing log id <;> rfl
    next => rfl
  refine ⟨tells, fun inquiry member => ?_, tidy.apart, fun other held => tidy.known other (isOpen other ▸ held),
    tidy.rightly.snoc accepted, fun entry member code due is => ?_⟩
  · obtain ⟨due, order, is, inTime⟩ := tidy.underway inquiry member
    refine ⟨due, order, is, ?_⟩
    rw [standing_snoc]
    split
    next about =>
      subst about
      generalize standing log inquiry.id = held at inTime
      cases inTime with
      | waiting within => exact .answered value within
      | answered first within => exact .answered first within
    next => exact inTime
  · rcases List.mem_append.mp member with old | new
    · exact tidy.sent entry old code due is
    · obtain rfl := List.mem_singleton.mp new
      cases is

theorem wait (tidy : Tidy timings ⟨world, inquiries, log⟩) {clock : Nat}
    (rests : ∀ inquiry ∈ inquiries, inquiry.flow.readyAt world = none)
    (inTime : ∀ inquiry ∈ inquiries, ∀ due, inquiry.flow.nextDue = some due → clock ≤ due) :
    Tidy timings ⟨{ world with clock := clock }, inquiries, log⟩ := by
  refine ⟨tidy.tells, fun inquiry member => ?_, tidy.apart, tidy.known, tidy.rightly, tidy.sent⟩
  obtain ⟨due, order, is, held⟩ := tidy.underway inquiry member
  have rest := rests inquiry member
  have within := inTime inquiry member due (is ▸ inquiring_nextDue)
  have unanswered := (inquiring_readyAt (is ▸ rest)).1
  have answers := tidy.tells.answers inquiry.id
  refine ⟨due, order, is, ?_⟩
  simp only at held answers ⊢
  rw [unanswered] at answers
  generalize standing log inquiry.id = stands at held answers
  cases held with
  | waiting _ => exact .waiting within
  | answered value _ => cases answers

theorem step {desk next : Desk} (tidy : Tidy timings desk) (step : Step timings desk next) :
    Tidy timings next := by
  cases step with
  | ask _ _ _ code => exact tidy.ask code
  | resolve _ _ _ id value => exact tidy.resolve id value
  | poll => exact tidy.poll
  | drop => exact tidy.drop
  | wait _ _ _ clock _ rests inTime => exact tidy.wait rests inTime
  | aside world after _ _ bridge clock sent =>
      refine ⟨bridge ▸ tidy.tells, fun inquiry member => ?_, tidy.apart, tidy.known, tidy.rightly,
        fun entry member code due is => sent.subset (tidy.sent entry member code due is)⟩
      exact clock ▸ tidy.underway inquiry member

theorem run {first last : Desk} (run : Run timings first last) (tidy : Tidy timings first) :
    Tidy timings last := by
  induction run with
  | refl => exact tidy
  | step _ next ih => exact ih.step next

end Tidy

theorem Run.trans {timings : Timings} {first middle last : Desk} (one : Run timings first middle)
    (two : Run timings middle last) : Run timings first last := by
  induction two with
  | refl => exact one
  | step _ next ih => exact ih.step next

/-- Either some request in progress can come to a result at once, or all of them rest. -/
theorem Tidy.ready_or_rests {timings : Timings} {desk : Desk} (tidy : Tidy timings desk) :
    (∃ ahead inquiry behind result, desk.inquiries = ahead ++ inquiry :: behind ∧
      inquiry.flow.run desk.world = (.done result, desk.world.forget [inquiry.id])) ∨
    ∀ inquiry ∈ desk.inquiries, inquiry.flow.readyAt desk.world = none ∧
      ∃ due, inquiry.flow.nextDue = some due ∧ desk.world.clock < due := by
  by_cases ready : ∃ inquiry ∈ desk.inquiries, ∃ result,
      inquiry.flow.run desk.world = (.done result, desk.world.forget [inquiry.id])
  · obtain ⟨inquiry, member, result, ran⟩ := ready
    obtain ⟨ahead, behind, split⟩ := List.append_of_mem member
    exact .inl ⟨ahead, inquiry, behind, result, split, ran⟩
  · refine .inr fun inquiry member => ?_
    obtain ⟨ahead, behind, split⟩ := List.append_of_mem member
    obtain ⟨world, inquiries, log⟩ := desk
    simp only at split
    subst split
    rcases tidy.ran with ⟨result, ran, -⟩ | ⟨-, rests, due, next, -, early⟩
    · exact absurd ⟨inquiry, member, result, ran⟩ ready
    · exact ⟨rests, due, next, early⟩

/-- A request in progress that is not dropped comes to a result. -/
theorem Tidy.completes {timings : Timings} {desk : Desk} (tidy : Tidy timings desk) {inquiry : Inquiry}
    (member : inquiry ∈ desk.inquiries) :
    ∃ later, Run timings desk later ∧ ∃ result, standing later.log inquiry.id = .returned result := by
  obtain ⟨due, sleeps⟩ : ∃ due, inquiry.flow.nextDue = some due := by
    obtain ⟨due, order, is, -⟩ := tidy.underway inquiry member
    exact ⟨due, is ▸ inquiring_nextDue⟩
  -- Either a request comes to a result, or all rest and time goes on towards the deadline.
  generalize amount : desk.inquiries.length + (due - desk.world.clock) = left
  induction left using Nat.strongRecOn generalizing desk with
  | ind left ih =>
      obtain ⟨world, inquiries, log⟩ := desk
      rcases tidy.ready_or_rests with ⟨ahead, other, behind, result, split, ran⟩ | rests
      · simp only at split ran
        subst split
        have next : Step timings ⟨world, ahead ++ other :: behind, log⟩
            ⟨world.forget [other.id], ahead ++ behind, log ++ [⟨world.clock, other.id, .returned result⟩]⟩ := by
          have polled := @Step.poll timings world ahead other behind log
          rw [ran] at polled
          exact polled
        have later := tidy.step next
        rcases mem_insert member with rfl | still
        · refine ⟨_, .step (.refl _) next, result, ?_⟩
          rw [standing_snoc, if_pos rfl, Standing.after_returned tidy.members.1.isOpen]
        · have fewer : (ahead ++ behind).length + (due - world.clock) < left := by
            simp only [List.length_append, List.length_cons] at amount ⊢
            omega
          obtain ⟨last, run, ends⟩ := ih _ fewer later still rfl
          exact ⟨last, .trans (.step (.refl _) next) run, ends⟩
      · have early : world.clock < due := by
          obtain ⟨-, time, isTime, before⟩ := rests inquiry member
          rw [sleeps, Option.some.injEq] at isTime
          exact isTime ▸ before
        have next : Step timings ⟨world, inquiries, log⟩ ⟨{ world with clock := world.clock + 1 }, inquiries, log⟩ := by
          refine .wait world inquiries log _ (Nat.le_succ _) (fun other within => (rests other within).1) ?_
          intro other within time isTime
          obtain ⟨-, _, same, before⟩ := rests other within
          rw [isTime, Option.some.injEq] at same
          exact same ▸ before
        have fewer : inquiries.length + (due - (world.clock + 1)) < left := by
          simp only at amount
          omega
        obtain ⟨last, run, ends⟩ := ih _ fewer (tidy.step next) member rfl
        exact ⟨last, .trans (.step (.refl _) next) run, ends⟩

/-- What holds of a desk at any time. -/
structure Faithful (timings : Timings) (desk : Desk) : Prop where
  /-- Open are the requests that were made and neither answered, given up nor dropped. -/
  pending : desk.world.bridge.pending = waitingOnes desk.log
  sent : ∀ entry ∈ desk.log, ∀ code due, entry.event = .asked code due →
    .evalRequest entry.id code ∈ desk.world.sent
  /-- A request comes to its first answer, at the time when it is handed in, or gives up at its
  deadline; only answers that are waited for are accepted. -/
  rightly : Throughout (Rightly timings) desk.log
  askedOnce : ∀ id, (entriesOf Event.asks desk.log id).length ≤ 1
  acceptedOnce : ∀ id, (entriesOf Event.accepts desk.log id).length ≤ 1
  returnedOnce : ∀ id, (entriesOf Event.returns desk.log id).length ≤ 1
  inProgress : ∀ id, (standing desk.log id).isOpen = true ↔ id ∈ desk.inquiries.map Inquiry.id
  /-- No request is in progress past its deadline, nor past the time when it was answered. -/
  inTime : ∀ id, (standing desk.log id).isOpen = true →
    ∃ due, InTime desk.world.clock due (standing desk.log id)
  idle : desk.inquiries = [] → desk.world.bridge.pending = []

theorem Tidy.faithful {timings : Timings} {desk : Desk} (tidy : Tidy timings desk) : desk.Faithful timings := by
  have inTime : ∀ id ∈ desk.inquiries.map Inquiry.id, ∃ due, InTime desk.world.clock due (standing desk.log id) := by
    intro id member
    obtain ⟨inquiry, within, rfl⟩ := List.mem_map.mp member
    obtain ⟨due, _, -, inTime⟩ := tidy.underway inquiry within
    exact ⟨due, inTime⟩
  refine ⟨tidy.tells.pending, tidy.sent, tidy.rightly, asked_once tidy.rightly, accepted_once tidy.rightly,
    returned_once tidy.rightly, fun id => ⟨tidy.known id, fun member => ?_⟩, fun id isOpen =>
      inTime id (tidy.known id isOpen), fun nobody => ?_⟩
  · obtain ⟨_, inTime⟩ := inTime id member
    exact inTime.isOpen
  · refine List.eq_nil_iff_forall_not_mem.mpr fun id pending => ?_
    have waits := tidy.tells.mem_pending.mp pending
    have isOpen : (standing desk.log id).isOpen = true := by
      cases held : standing desk.log id <;> simp [held, Standing.isWaiting, Standing.isOpen] at waits ⊢
    have member := tidy.known id isOpen
    rw [nobody] at member
    cases member

/-- However requests, answers, drops and time interleave, the table of open requests is exact, every
request comes to its first answer or gives up at its deadline, and an answer concerns no request but its
own.  Whoever is in progress and not dropped comes to a result. -/
theorem run_faithful {timings : Timings} {world : World} (idle : world.bridge = .empty) {desk : Desk}
    (run : Run timings ⟨world, [], []⟩ desk) :
    desk.Faithful timings ∧
      (∀ id value, desk.world.bridge.Concerns id (desk.world.resolve id value).1
        (desk.world.resolve id value).2.bridge) ∧
      ∀ inquiry ∈ desk.inquiries, ∃ later, Run timings desk later ∧
        ∃ result, standing later.log inquiry.id = .returned result := by
  have tidy := Tidy.run run (.start timings idle)
  refine ⟨tidy.faithful, fun id value => ?_, fun inquiry member => tidy.completes member⟩
  exact desk.world.bridge.resolve_concerns id value desk.world.order

/-- A request that is answered in time comes to the answer. -/
theorem run_faithful_answered : ∃ desk, Run .usual ⟨World.start (.ofText ""), [], []⟩ desk ∧
    standing desk.log (Bridge.idOf 1) = .returned (.ok (.nat 42)) ∧ desk.Faithful .usual := by
  let world := World.start (.ofText "")
  let waits : World := { world.openEval "6 * 7" with order := 2 }
  let inquiry : Inquiry := ⟨Bridge.idOf 1, inquiring (Bridge.idOf 1) 1000 1⟩
  have asked : Run .usual ⟨world, [], []⟩ ⟨waits, [inquiry], [⟨0, Bridge.idOf 1, .asked "6 * 7" 1000⟩]⟩ := by
    have step := @Step.ask .usual world [] [] "6 * 7"
    rw [request_run rfl] at step
    exact .step (.refl _) step
  have resolved := asked.step (.resolve _ _ _ (Bridge.idOf 1) (.nat 42))
  have answer : (waits.resolve (Bridge.idOf 1) (.nat 42)).2.bridge.answer? (Bridge.idOf 1) = some (.nat 42, 2) := by
    have pending : Bridge.idOf 1 ∈ waits.bridge.pending := List.mem_singleton.mpr rfl
    rw [World.resolve, Bridge.resolve_of_mem pending]
    exact Keyed.get?_put_self _ _ _
  have returned := resolved.step (.poll _ [] inquiry [] _)
  rw [inquiring_run_answered answer] at returned
  have isOpen := ((run_faithful rfl resolved).1.inProgress (Bridge.idOf 1)).mpr (List.mem_singleton.mpr rfl)
  refine ⟨_, returned, ?_, (run_faithful rfl returned).1⟩
  exact (standing_snoc _ _ _).trans ((if_pos rfl).trans (Standing.after_returned isOpen _ _ _))

end Desk

end ConsentBanner

import ConsentBanner.Proofs.Bridge.Table
import ConsentBanner.Proofs.Flow.Alone
import ConsentBanner.Proofs.Flow.Running
import ConsentBanner.Proofs.Rule.Meaning

/-!
# Flows on a page that stands still

Flows that make plain calls, ask for page script, pause and run side by side do not get in each other's way on a
page that stands still.  `Flow.Unfolds` says what such a flow comes to, when, and what it clicks until then.
`Unfolds.comesOn` says that a run brings it further on its way, `Unfolds.elapse` that time may pass as long as it
wakes in time.
-/

set_option autoImplicit false

namespace ConsentBanner

/-- What comes of a request for page script. -/
def Scene.reply (scene : Scene) (code id : String) : Except ConsentError Json :=
  match scene.answer? code with
  | some value => if scene.timings.eval = 0 then .error (.evalTimeout id) else .ok value
  | none => .error (.evalTimeout id)

/-- How long that takes. -/
def Scene.delay (scene : Scene) (code : String) : Nat :=
  if (scene.answer? code).isSome then 0 else scene.timings.eval

theorem Scene.delay_zero {scene : Scene} {code : String} (zero : scene.timings.eval = 0) : scene.delay code = 0 := by
  rw [delay, zero]
  exact ite_self 0

theorem Scene.reply_zero {scene : Scene} {code : String} (zero : scene.timings.eval = 0) (id : String) :
    scene.reply code id = .error (.evalTimeout id) := by
  unfold reply
  split
  · rw [if_pos zero]
  · rfl

/-- Requests for page script that are under way, each with the answer that it will get, if any. -/
abbrev Asked : Type := List (String × Option Json)

namespace Flow

/-- From a time on a flow, in which some requests are under way, will come to a value at a time and will have
clicked so much until then. -/
inductive Unfolds (scene : Scene) : {α : Type} → Nat → Flow α → Asked → α → Nat → Clicks → Prop where
  | done {α : Type} (value : α) (now : Nat) : Unfolds scene now (.done value) [] value now 1
  | page {α β : Type} {now last : Nat} {call : PageCall β} {next : Except PageError β → Flow α} {value : α}
      {clicks : Clicks} (plain : call.IsPlain)
      (onward : Unfolds scene now (next (scene.page.perform call).1) [] value last clicks) :
      Unfolds scene now (.ask (.page call) next) [] value last
        (.on now (scene.clicked call) * clicks)
  | request {α : Type} {now last : Nat} {code : String} {next : Except ConsentError Json → Flow α} {value : α}
      {clicks : Clicks}
      (onward : ∀ id, Unfolds scene (now + scene.delay code) (next (scene.reply code id)) [] value last clicks) :
      Unfolds scene now ((Primitive.request scene.timings code).bind next) [] value last clicks
  | answered {α : Type} {now due order last : Nat} {id : String} {answer : Json}
      {next : Except ConsentError Json → Flow α} {value : α} {clicks : Clicks} (early : now < due)
      (onward : Unfolds scene now (next (.ok answer)) [] value last clicks) :
      Unfolds scene now ((inquiring id due order).bind next) [(id, some answer)] value last clicks
  | unanswered {α : Type} {now due order last : Nat} {id : String} {next : Except ConsentError Json → Flow α}
      {value : α} {clicks : Clicks} (early : now ≤ due)
      (onward : Unfolds scene due (next (.error (.evalTimeout id))) [] value last clicks) :
      Unfolds scene now ((inquiring id due order).bind next) [(id, none)] value last clicks
  | sleep {α : Type} {now time last : Nat} {next : Flow α} {value : α} {clicks : Clicks}
      (onward : Unfolds scene (now + time) next [] value last clicks) :
      Unfolds scene now (.sleep time next) [] value last clicks
  | asleep {α : Type} {now due order last : Nat} {next : Flow α} {value : α} {clicks : Clicks}
      (early : now ≤ due) (onward : Unfolds scene due next [] value last clicks) :
      Unfolds scene now (.asleep due order next) [] value last clicks
  | both {α β γ : Type} {now one two last : Nat} {left : Flow β} {right : Flow γ} {next : β → γ → Flow α}
      {a : β} {b : γ} {value : α} {askedLeft askedRight : Asked} {byLeft byRight clicks : Clicks}
      (first : Unfolds scene now left askedLeft a one byLeft)
      (second : Unfolds scene now right askedRight b two byRight)
      (onward : Unfolds scene (max one two) (next a b) [] value last clicks) :
      Unfolds scene now (.both left right next) (askedLeft ++ askedRight) value last
        (byLeft.beside byRight * clicks)

namespace Unfolds

variable {scene : Scene} {α β : Type} {flow : Flow α} {now middle last : Nat} {asked : Asked} {value : α}
  {clicks later : Clicks}

theorem late (unfolds : Unfolds scene now flow asked value last clicks) : now ≤ last := by
  induction unfolds with
  | done => exact Nat.le_refl _
  | page _ _ ih => exact ih
  | request _ ih => exact Nat.le_of_add_right_le (ih "")
  | answered _ _ ih => exact ih
  | unanswered early _ ih => exact Nat.le_trans early ih
  | sleep _ ih => exact Nat.le_of_add_right_le ih
  | asleep early _ ih => exact Nat.le_trans early ih
  | both _ _ _ first _ onward => exact Nat.le_trans first (Nat.le_trans (Nat.le_max_left _ _) onward)

/-- What has come to a value has nothing more to do. -/
theorem ofDone {other : α} (unfolds : Unfolds scene now (.done other) asked value last clicks) :
    other = value ∧ now = last ∧ asked = [] ∧ clicks = 1 := by
  generalize is : Flow.done other = flow at unfolds
  cases unfolds with
  | done =>
      cases is
      exact ⟨rfl, rfl, rfl, rfl⟩
  | request _ => rw [request_eq] at is; cases is
  | _ => cases is

/-- Time has not come to where it sleeps until. -/
theorem early {due : Nat} (unfolds : Unfolds scene now flow asked value last clicks)
    (sleeps : flow.nextDue = some due) : now ≤ due := by
  induction unfolds with
  | done | page | sleep => cases sleeps
  | request => rw [request_eq] at sleeps; cases sleeps
  | answered early _ _ => cases sleeps; exact early.le
  | unanswered early _ _ => cases sleeps; exact early
  | asleep early _ _ => cases sleeps; exact early
  | both _ _ _ ihFirst ihSecond _ => exact (earlier_eq_some sleeps).elim ihFirst ihSecond

theorem bind {f : α → Flow β} {result : β} (unfolds : Unfolds scene now flow asked value middle clicks)
    (onward : Unfolds scene middle (f value) [] result last later) :
    Unfolds scene now (flow.bind f) asked result last (clicks * later) := by
  induction unfolds with
  | done => exact (one_mul later).symm ▸ onward
  | page plain _ ih => exact mul_assoc _ _ later ▸ .page plain (ih onward)
  | request _ ih => exact bind_assoc f _ _ ▸ .request fun id => ih id onward
  | answered early _ ih => exact bind_assoc f _ _ ▸ .answered early (ih onward)
  | unanswered early _ ih => exact bind_assoc f _ _ ▸ .unanswered early (ih onward)
  | sleep _ ih => exact .sleep (ih onward)
  | asleep early _ ih => exact .asleep early (ih onward)
  | both first second _ _ _ ih => exact mul_assoc _ _ later ▸ .both first second (ih onward)

end Unfolds

end Flow

/-! ## What surrounds such a flow -/

/-- A request that is under way has its answer, or waits for what it will be told by those who have not heard of
it yet. -/
inductive Awaits (scene : Scene) (unheard : List Outbound) (world : World) : String × Option Json → Prop where
  | answered {id : String} {answer : Json} {place : Nat} (has : world.bridge.answer? id = some (answer, place))
      (closed : id ∉ world.bridge.pending) : Awaits scene unheard world (id, some answer)
  | waiting {id : String} {answer : Option Json} (unanswered : world.bridge.answer? id = none)
      (pending : id ∈ world.bridge.pending)
      (told : ∀ code, .evalRequest id code ∈ unheard → scene.answer? code = answer)
      (asked : answer ≠ none → ∃ code, .evalRequest id code ∈ unheard) : Awaits scene unheard world (id, answer)

def World.Mentions (world : World) (id : String) : Prop :=
  id ∈ world.bridge.pending ∨ world.bridge.answer? id ≠ none ∨ ∃ code, .evalRequest id code ∈ world.sent

/-- Requests have the numbers that were given to them. -/
def World.Numbered (world : World) : Prop :=
  ∀ id, world.Mentions id → ∃ number, number ≤ world.bridge.opened ∧ id = Bridge.idOf number

theorem World.Numbered.fresh {world : World} (numbered : world.Numbered) :
    ¬ world.Mentions world.bridge.nextId := by
  intro mentioned
  obtain ⟨number, within, is⟩ := numbered _ mentioned
  have same := Bridge.idOf_injective (world.bridge.nextId_eq.symm.trans is)
  omega

theorem World.mem_pending_openEval {world : World} {id code : String} :
    id ∈ (world.openEval code).bridge.pending ↔ id ∈ world.bridge.pending ∨ id = world.bridge.nextId :=
  List.mem_append.trans (or_congr_right List.mem_singleton)

theorem World.of_mem_sent_openEval {world : World} {id code code' : String}
    (told : .evalRequest id code' ∈ (world.openEval code).sent) :
    .evalRequest id code' ∈ world.sent ∨ id = world.bridge.nextId := by
  rcases List.mem_append.mp told with old | new
  · exact .inl old
  · exact .inr (Outbound.evalRequest.inj (List.mem_singleton.mp new)).1

theorem World.Numbered.openEval {world : World} (numbered : world.Numbered) (code : String) :
    (world.openEval code).Numbered := by
  intro id mentioned
  have known : world.Mentions id ∨ id = world.bridge.nextId := by
    rcases mentioned with pending | answered | ⟨code', told⟩
    · exact (World.mem_pending_openEval.mp pending).imp_left .inl
    · exact .inl (.inr (.inl answered))
    · exact (World.of_mem_sent_openEval told).imp_left fun old => .inr (.inr ⟨code', old⟩)
  rcases known with old | rfl
  · obtain ⟨number, within, is⟩ := numbered id old
    exact ⟨number, Nat.le_succ_of_le within, is⟩
  · exact ⟨world.bridge.opened + 1, Nat.le_refl _, rfl⟩

/-- A new request waits for what it will be told. -/
theorem awaits_openEval {scene : Scene} {world : World} {code : String} (numbered : world.Numbered) (seen : Nat) :
    Awaits scene (world.sent.drop seen ++ [.evalRequest world.bridge.nextId code]) (world.openEval code)
      (world.bridge.nextId, scene.answer? code) := by
  have fresh := numbered.fresh
  refine .waiting ?_ (World.mem_pending_openEval.mpr (.inr rfl)) (fun code' told => ?_) fun _ => ⟨code, by simp⟩
  · by_contra answered
    exact fresh (.inr (.inl answered))
  · rcases List.mem_append.mp told with before | new
    · exact absurd (.inr (.inr ⟨code', List.mem_of_mem_drop before⟩)) fresh
    · rw [(Outbound.evalRequest.inj (List.mem_singleton.mp new)).2]

theorem Awaits.openEval {scene : Scene} {unheard : List Outbound} {world : World} {entry : String × Option Json}
    {code : String} (awaits : Awaits scene unheard world entry) (differs : entry.1 ≠ world.bridge.nextId) :
    Awaits scene (unheard ++ [.evalRequest world.bridge.nextId code]) (world.openEval code) entry := by
  cases awaits with
  | answered has closed =>
      refine .answered has fun pending => ?_
      exact (World.mem_pending_openEval.mp pending).elim closed differs
  | waiting unanswered pending told asked =>
      refine .waiting unanswered (World.mem_pending_openEval.mpr (.inl pending)) (fun code' member => ?_)
        fun some => ?_
      · rcases List.mem_append.mp member with before | new
        · exact told code' before
        · exact absurd (Outbound.evalRequest.inj (List.mem_singleton.mp new)).1 differs
      · obtain ⟨code', before⟩ := asked some
        exact ⟨code', List.mem_append_left _ before⟩

structure Stands (scene : Scene) (seen : Nat) (world : World) (asked : Asked) : Prop where
  looks : scene.page.Looks world.page
  numbered : world.Numbered
  within : seen ≤ world.sent.length
  apart : (asked.map Prod.fst).Nodup
  awaits : ∀ entry ∈ asked, Awaits scene (world.sent.drop seen) world entry

namespace Stands

variable {scene : Scene} {seen : Nat} {world : World} {asked others : Asked} {id code : String}

theorem perm (stands : Stands scene seen world asked) (same : asked.Perm others) :
    Stands scene seen world others :=
  ⟨stands.looks, stands.numbered, stands.within, (same.map Prod.fst).nodup_iff.mp stands.apart,
    fun entry member => stands.awaits entry (same.mem_iff.mpr member)⟩

theorem mentions {entry : String × Option Json} (stands : Stands scene seen world asked)
    (member : entry ∈ asked) : world.Mentions entry.1 := by
  cases stands.awaits entry member with
  | answered has _ => exact .inr (.inl (by rw [has]; nofun))
  | waiting _ pending _ _ => exact .inl pending

/-- Nothing else of a world matters. -/
theorem same {after : World} (stands : Stands scene seen world asked) (looks : scene.page.Looks after.page)
    (bridge : after.bridge = world.bridge) (sent : after.sent = world.sent) :
    Stands scene seen after asked := by
  obtain ⟨-, numbered, within, apart, awaits⟩ := stands
  refine ⟨looks, ?_, sent ▸ within, apart, fun entry member => ?_⟩
  · intro id mentioned
    rw [World.Mentions, bridge, sent] at mentioned
    exact bridge ▸ numbered id mentioned
  · rw [sent]
    cases awaits entry member with
    | answered has closed => exact .answered (bridge ▸ has) (bridge ▸ closed)
    | waiting unanswered pending told asked =>
        exact .waiting (bridge ▸ unanswered) (bridge ▸ pending) told asked

theorem openEval (stands : Stands scene seen world others) (code : String) :
    Stands scene seen (world.openEval code) ((world.bridge.nextId, scene.answer? code) :: others) := by
  have apart : ∀ entry ∈ others, entry.1 ≠ world.bridge.nextId :=
    fun entry member same => stands.numbered.fresh (same ▸ stands.mentions member)
  have unheard : (world.openEval code).sent.drop seen =
      world.sent.drop seen ++ [.evalRequest world.bridge.nextId code] :=
    List.drop_append_of_le_length stands.within
  refine ⟨stands.looks, stands.numbered.openEval code, ?_, ?_, ?_⟩
  · rw [World.openEval, World.send, List.length_append]
    exact Nat.le_add_right_of_le stands.within
  · refine List.nodup_cons.mpr ⟨fun member => ?_, stands.apart⟩
    obtain ⟨entry, within, same⟩ := List.mem_map.mp member
    exact apart entry within same
  · rw [unheard]
    refine List.forall_mem_cons.mpr ⟨?_, fun entry old => (stands.awaits entry old).openEval (apart entry old)⟩
    exact awaits_openEval stands.numbered seen

theorem forget {answer : Option Json} (stands : Stands scene seen world ((id, answer) :: others)) :
    Stands scene seen (world.forget [id]) others := by
  have apart := List.nodup_cons.mp stands.apart
  have pending : ∀ other, other ∈ (world.forget [id]).bridge.pending ↔ other ∈ world.bridge.pending ∧ other ≠ id := by
    intro other
    rw [World.forget, Bridge.pending_forget, List.mem_filter]
    simp
  have answers : ∀ other, other ≠ id → (world.forget [id]).bridge.answer? other = world.bridge.answer? other := by
    intro other differs
    rw [World.forget, Bridge.answer?_forget]
    simp [differs]
  refine ⟨stands.looks, fun other mentioned => stands.numbered other ?_, stands.within, apart.2,
    fun entry member => ?_⟩
  · rcases mentioned with isPending | answered | told
    · exact .inl ((pending other).mp isPending).1
    · refine .inr (.inl fun unanswered => answered ?_)
      rw [World.forget, Bridge.answer?_forget, unanswered]
      exact ite_self none
    · exact .inr (.inr told)
  · have differs : entry.1 ≠ id := fun same => apart.1 (List.mem_map.mpr ⟨entry, member, same⟩)
    cases stands.awaits entry (List.mem_cons_of_mem _ member) with
    | answered has closed =>
        exact .answered ((answers _ differs).trans has) fun open_ => closed ((pending _).mp open_).1
    | waiting unanswered isPending told asked =>
        exact .waiting ((answers _ differs).trans unanswered) ((pending _).mpr ⟨isPending, differs⟩) told asked

end Stands

namespace Flow

/-- How far a run brings a flow: it has clicked so much, and the rest is still to come. -/
structure Brings (scene : Scene) (seen now : Nat) (others : Asked) {α : Type} (value : α) (last : Nat)
    (clicks : Clicks) (before : World) (result : Flow α × World) (asked : Asked) (clicked : List NodeId)
    (rest : Clicks) : Prop where
  unfolds : Unfolds scene now result.1 asked value last rest
  stands : Stands scene seen result.2 (asked ++ others)
  log : result.2.page.clicks = before.page.clicks ++ clicked
  all : Clicks.on now clicked * rest ≤ clicks

/-- Some clicks, and the same from a moment on. -/
theorem Brings.later {scene : Scene} {seen now last : Nat} {others asked : Asked} {α : Type} {value : α}
    {whole clicks rest : Clicks} {before between : World} {result : Flow α × World} {first clicked : List NodeId}
    (brings : Brings scene seen now others value last clicks between result asked clicked rest)
    (soFar : between.page.clicks = before.page.clicks ++ first) (within : .on now first * clicks ≤ whole) :
    Brings scene seen now others value last whole before result asked (first ++ clicked) rest := by
  refine ⟨brings.unfolds, brings.stands, ?_, le_trans ?_ within⟩
  · rw [brings.log, soFar, List.append_assoc]
  · rw [Clicks.on_append, mul_assoc]
    exact mul_le_mul_right brings.all _

/-- A flow that is run comes further on its way, up to its end or to where it has to wait. -/
def ComesOn (scene : Scene) (seen now : Nat) {α : Type} (flow : Flow α) (asked : Asked) (value : α) (last : Nat)
    (clicks : Clicks) : Prop :=
  ∀ (world : World) (others : Asked), world.clock = now → Stands scene seen world (asked ++ others) →
    ∃ left clicked rest, Brings scene seen now others value last clicks world (flow.run world) left clicked rest

section ComesOn

variable {scene : Scene} {seen now last due order : Nat} {asked others : Asked} {α β γ : Type} {value : α}
  {clicks : Clicks} {world after : World} {flow : Flow α} {id code : String}

theorem Unfolds.waits (unfolds : flow.Unfolds scene now asked value last clicks)
    (stands : Stands scene seen after (asked ++ others)) (same : after.page = world.page) :
    ∃ left clicked rest, Brings scene seen now others value last clicks world (flow, after) left clicked rest :=
  ⟨asked, [], clicks, unfolds, stands, (congrArg Snapshot.clicks same).trans (List.append_nil _).symm,
    (one_mul clicks).le⟩

theorem ComesOn.elsewhere (comes : ComesOn scene seen now flow asked value last clicks)
    (stands : Stands scene seen after (asked ++ others)) (at_ : after.clock = now)
    (same : after.page = world.page) :
    ∃ left clicked rest, Brings scene seen now others value last clicks world (flow.run after) left clicked rest := by
  obtain ⟨left, clicked, rest, brings⟩ := comes after others at_ stands
  have clicks := congrArg Snapshot.clicks same
  exact ⟨left, clicked, rest, brings.unfolds, brings.stands, clicks ▸ brings.log, brings.all⟩

theorem comesOn_page {call : PageCall β} {next : Except PageError β → Flow α} (plain : call.IsPlain)
    (onward : ComesOn scene seen now (next (scene.page.perform call).1) [] value last clicks) :
    ComesOn scene seen now (.ask (.page call) next) [] value last (.on now (scene.clicked call) * clicks) := by
  intro world others at_ stands
  obtain ⟨reply, looks, clicked⟩ := scene.perform_plain stands.looks plain
  have after : Stands scene seen { world with page := (world.page.perform call).2 } _ := stands.same looks rfl rfl
  obtain ⟨left, more, rest, brings⟩ := onward { world with page := (world.page.perform call).2 } _ at_ after
  rw [← reply] at brings
  exact ⟨left, scene.clicked call ++ more, rest, brings.later clicked le_rfl⟩

theorem comesOn_request {next : Except ConsentError Json → Flow α}
    (onward : ∀ id, (next (scene.reply code id)).Unfolds scene (now + scene.delay code) [] value last clicks)
    (comes : ∀ id, ComesOn scene seen (now + scene.delay code) (next (scene.reply code id)) [] value last clicks) :
    ComesOn scene seen now ((Primitive.request scene.timings code).bind next) [] value last clicks := by
  intro world others at_ stands
  have fresh : world.bridge.answer? world.bridge.nextId = none := by
    by_contra answered
    exact stands.numbered.fresh (.inr (.inl answered))
  have opened := stands.openEval code
  rw [run_bind, request_run fresh]
  by_cases zero : scene.timings.eval = 0
  · have onwardNow := comes world.bridge.nextId
    rw [scene.delay_zero zero, scene.reply_zero zero, Nat.add_zero] at onwardNow
    have forgotten : Stands scene seen ((world.openEval code).forget [world.bridge.nextId]) others := opened.forget
    rw [if_pos zero]
    exact onwardNow.elsewhere forgotten at_ rfl
  · rw [if_neg zero]
    have waiting : Stands scene seen { world.openEval code with order := world.order + 1 } _ :=
      opened.same stands.looks rfl rfl
    have onwardThen := onward world.bridge.nextId
    rw [Scene.delay, Scene.reply] at onwardThen
    subst at_
    cases answer : scene.answer? code with
    | some value =>
        rw [answer] at waiting
        simp only [answer, if_neg zero, Option.isSome_some, if_true, Nat.add_zero] at onwardThen
        exact (Unfolds.answered (Nat.lt_add_of_pos_right (Nat.pos_of_ne_zero zero)) onwardThen).waits waiting rfl
    | none =>
        rw [answer] at waiting onwardThen
        exact (Unfolds.unanswered (Nat.le_add_right _ _) onwardThen).waits waiting rfl

theorem comesOn_answered {next : Except ConsentError Json → Flow α} {answer : Json} (early : now < due)
    (onward : (next (.ok answer)).Unfolds scene now [] value last clicks)
    (comes : ComesOn scene seen now (next (.ok answer)) [] value last clicks) :
    ComesOn scene seen now ((inquiring id due order).bind next) [(id, some answer)] value last clicks := by
  intro world others at_ stands
  rw [run_bind]
  cases stands.awaits _ List.mem_cons_self with
  | answered has closed =>
      rw [inquiring_run_answered has]
      exact comes.elsewhere stands.forget at_ rfl
  | waiting unanswered pending _ _ =>
      rw [inquiring_run_early unanswered pending (at_ ▸ early)]
      exact (Unfolds.answered early onward).waits stands rfl

theorem comesOn_unanswered {next : Except ConsentError Json → Flow α} (early : now ≤ due)
    (onward : (next (.error (.evalTimeout id))).Unfolds scene due [] value last clicks)
    (comes : ComesOn scene seen due (next (.error (.evalTimeout id))) [] value last clicks) :
    ComesOn scene seen now ((inquiring id due order).bind next) [(id, none)] value last clicks := by
  intro world others at_ stands
  rw [run_bind]
  cases stands.awaits _ List.mem_cons_self with
  | waiting unanswered pending _ _ =>
      by_cases late : due ≤ world.clock
      · rw [inquiring_run_due unanswered pending late]
        obtain rfl : now = due := by omega
        exact comes.elsewhere stands.forget at_ rfl
      · rw [inquiring_run_early unanswered pending (Nat.lt_of_not_le late)]
        exact (Unfolds.unanswered early onward).waits stands rfl

theorem comesOn_sleep {time : Nat} (onward : flow.Unfolds scene (now + time) [] value last clicks)
    (comes : ComesOn scene seen (now + time) flow [] value last clicks) :
    ComesOn scene seen now (.sleep time flow) [] value last clicks := by
  intro world others at_ stands
  rw [Flow.run]
  by_cases zero : time = 0
  · subst zero
    rw [if_pos rfl]
    exact comes world others at_ stands
  · rw [if_neg zero]
    subst at_
    have counted : Stands scene seen { world with order := world.order + 1 } _ := stands.same stands.looks rfl rfl
    exact (Unfolds.asleep (Nat.le_add_right _ _) onward).waits counted rfl

theorem comesOn_asleep (early : now ≤ due) (onward : flow.Unfolds scene due [] value last clicks)
    (comes : ComesOn scene seen due flow [] value last clicks) :
    ComesOn scene seen now (.asleep due order flow) [] value last clicks := by
  intro world others at_ stands
  rw [Flow.run]
  by_cases late : due ≤ world.clock
  · rw [if_pos late]
    obtain rfl : now = due := by omega
    exact comes world others at_ stands
  · rw [if_neg late]
    exact (Unfolds.asleep early onward).waits stands rfl

theorem comesOn_both {one two : Nat} {left : Flow β} {right : Flow γ} {next : β → γ → Flow α} {a : β} {b : γ}
    {askedLeft askedRight : Asked} {byLeft byRight : Clicks}
    (onward : (next a b).Unfolds scene (max one two) [] value last clicks)
    (first : ComesOn scene seen now left askedLeft a one byLeft)
    (second : ComesOn scene seen now right askedRight b two byRight)
    (comes : ComesOn scene seen (max one two) (next a b) [] value last clicks) :
    ComesOn scene seen now (.both left right next) (askedLeft ++ askedRight) value last
      (byLeft.beside byRight * clicks) := by
  intro world others at_ stands
  -- While one side is run, the requests of the other side are among those of others.
  have behind : ∀ one two three : Asked, (one ++ (two ++ three)).Perm (two ++ (one ++ three)) := by
    intro one two three
    rw [← List.append_assoc, ← List.append_assoc]
    exact List.perm_append_comm.append_right three
  rw [List.append_assoc] at stands
  obtain ⟨leftAsked, clickedLeft, restLeft, ranLeft⟩ := first world (askedRight ++ others) at_ stands
  have clockLeft : (left.run world).2.clock = now := (run_clock left world).trans at_
  obtain ⟨rightAsked, clickedRight, restRight, ranRight⟩ := second (left.run world).2 (leftAsked ++ others) clockLeft
    (ranLeft.stands.perm (behind _ _ _))
  have clockRight : (right.run (left.run world).2).2.clock = now := (run_clock right _).trans clockLeft
  rw [Flow.run]
  generalize left.run world = resultLeft at ranLeft ranRight clockRight ⊢
  simp only
  generalize right.run resultLeft.2 = resultRight at ranRight clockRight ⊢
  have stood := ranRight.stands.perm (behind _ _ _)
  have log : resultRight.2.page.clicks = world.page.clicks ++ (clickedLeft ++ clickedRight) := by
    rw [ranRight.log, ranLeft.log, List.append_assoc]
  have soFar : .on now (clickedLeft ++ clickedRight) * restLeft.beside restRight ≤ byLeft.beside byRight :=
    (Clicks.on_beside _ _ _ _ _).trans (Clicks.beside_mono ranLeft.all ranRight.all)
  split
  next a' b' isLeft isRight =>
    have leftDone := value?_eq_some.mp isLeft ▸ ranLeft.unfolds
    have rightDone := value?_eq_some.mp isRight ▸ ranRight.unfolds
    obtain ⟨rfl, rfl, rfl, rfl⟩ := leftDone.ofDone
    obtain ⟨rfl, rfl, rfl, rfl⟩ := rightDone.ofDone
    rw [Nat.max_self] at comes
    obtain ⟨left, clicked, rest, brings⟩ := comes resultRight.2 others clockRight stood
    refine ⟨left, clickedLeft ++ clickedRight ++ clicked, rest, brings.later log (mul_le_mul_left ?_ clicks)⟩
    calc
      Clicks.on now (clickedLeft ++ clickedRight) = .on now (clickedLeft ++ clickedRight) * 1 := (mul_one _).symm
      _ ≤ .on now (clickedLeft ++ clickedRight) * Clicks.beside 1 1 := mul_le_mul_right Clicks.one_beside _
      _ ≤ byLeft.beside byRight := soFar
  next =>
    refine ⟨leftAsked ++ rightAsked, clickedLeft ++ clickedRight, restLeft.beside restRight * clicks,
      .both ranLeft.unfolds ranRight.unfolds onward, ?_, log, ?_⟩
    · rw [List.append_assoc]
      exact stood
    · rw [← mul_assoc]
      exact mul_le_mul_left soFar clicks

theorem Unfolds.comesOn (unfolds : flow.Unfolds scene now asked value last clicks) :
    ComesOn scene seen now flow asked value last clicks := by
  induction unfolds with
  | done value now => exact fun _ _ _ stands => (Unfolds.done value now).waits stands rfl
  | page plain _ ih => exact comesOn_page plain ih
  | request onward ih => exact comesOn_request onward ih
  | answered early onward ih => exact comesOn_answered early onward ih
  | unanswered early onward ih => exact comesOn_unanswered early onward ih
  | sleep onward ih => exact comesOn_sleep onward ih
  | asleep early onward ih => exact comesOn_asleep early onward ih
  | both _ _ onward ihFirst ihSecond ih => exact comesOn_both onward ihFirst ihSecond ih

end ComesOn

/-- Time may pass where all answers were given, as long as the flow wakes in time. -/
theorem Unfolds.elapse {scene : Scene} {now later last : Nat} {asked : Asked} {α : Type} {flow : Flow α}
    {value : α} {clicks : Clicks} (unfolds : Unfolds scene now flow asked value last clicks) :
    ∀ {world : World}, (∀ entry ∈ asked, Awaits scene [] world entry) → flow.readyAt world = none →
      now ≤ later → (∀ due, flow.nextDue = some due → later ≤ due) →
      Unfolds scene later flow asked value last clicks := by
  induction unfolds with
  | done | page | sleep => exact fun _ waits => by cases waits
  | request => exact fun _ waits => by rw [request_eq] at waits; cases waits
  | answered early onward _ =>
      intro world awaits waits _ _
      rw [readyAt_bind world rfl] at waits
      obtain ⟨unanswered, -⟩ := inquiring_readyAt waits
      cases awaits _ List.mem_cons_self with
      | answered has _ => rw [has] at unanswered; cases unanswered
      | waiting _ _ _ asked =>
          obtain ⟨code, told⟩ := asked nofun
          cases told
  | unanswered early onward _ => exact fun _ _ _ inTime => .unanswered (inTime _ rfl) onward
  | asleep early onward _ => exact fun _ _ _ inTime => .asleep (inTime _ rfl) onward
  | @both _ _ _ now one two last left right next a b value askedLeft askedRight byLeft byRight clicks first
      second onward ihFirst ihSecond _ =>
      intro world awaits waits onwards inTime
      have awaitsLeft := fun entry member => awaits entry (List.mem_append_left askedRight member)
      have awaitsRight := fun entry member => awaits entry (List.mem_append_right askedLeft member)
      obtain ⟨inTimeLeft, inTimeRight⟩ := earlier_bound inTime
      rw [Flow.readyAt] at waits
      cases leftDone : left.value? with
      | some value =>
          obtain rfl := value?_eq_some.mp leftDone
          obtain ⟨rfl, rfl, rfl, rfl⟩ := first.ofDone
          cases rightDone : right.value? with
          | some value => rw [leftDone, rightDone] at waits; cases waits
          | none =>
              -- The left side is done at any time: when both are done depends on the right side only.
              rw [leftDone, rightDone] at waits
              have secondLater := ihSecond awaitsRight waits onwards inTimeRight
              rw [Nat.max_eq_right second.late] at onward
              refine .both (.done _ later) secondLater ?_
              rwa [Nat.max_eq_right secondLater.late]
      | none =>
          cases rightDone : right.value? with
          | some value =>
              obtain rfl := value?_eq_some.mp rightDone
              obtain ⟨rfl, rfl, rfl, rfl⟩ := second.ofDone
              rw [leftDone, rightDone] at waits
              have firstLater := ihFirst awaitsLeft waits onwards inTimeLeft
              rw [Nat.max_eq_left first.late] at onward
              refine .both firstLater (.done _ later) ?_
              rwa [Nat.max_eq_left firstLater.late]
          | none =>
              rw [leftDone, rightDone] at waits
              obtain ⟨waitsLeft, waitsRight⟩ := earlier_eq_none.mp waits
              exact .both (ihFirst awaitsLeft waitsLeft onwards inTimeLeft)
                (ihSecond awaitsRight waitsRight onwards inTimeRight) onward

end Flow

end ConsentBanner

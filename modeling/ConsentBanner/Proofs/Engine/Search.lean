import ConsentBanner.Proofs.Engine.Gating
import ConsentBanner.Proofs.Flow.Consulted
import ConsentBanner.Proofs.Rehearsal.Sequence
import Mathlib.Data.List.Chain

/-!
# What becomes of a search

A pass asks all handlers side by side that may run on the page as it is when the pass begins, each until it has come
to a result, whatever the others come to.  It finds those that have answered yes, in the order in which they are
registered, and sends nothing but their requests for page script (`Pass.asks_of_played`).

A search makes passes until one finds something or none is left, a fixed time apart, and reports in the end if more
than one platform was found (`Engine.findCandidates_searches`).
-/

set_option autoImplicit false

namespace ConsentBanner

/-! ## Passes -/

/-- Flows that run alike at first are played alike. -/
theorem Rehearsal.playFlow_congr {α : Type} {fuel : Nat} {rehearsal : Rehearsal} {flow other : Flow α}
    (same : flow.run rehearsal.world = other.run rehearsal.world) :
    rehearsal.playFlow (fuel + 1) flow = rehearsal.playFlow (fuel + 1) other := by
  simp only [playFlow, same]

theorem World.answer_page (world : World) {α : Type} {call : PageCall α}
    (still : (world.page.perform call).2 = world.page) :
    world.answer (.page call) = ((world.page.perform call).1, world) :=
  Prod.ext rfl (congrArg (fun page => { world with page := page }) still)

/-- To ask for the address leaves a page as it is. -/
theorem Snapshot.perform_location (page : Snapshot) : (page.perform .location).2 = page := by
  rw [perform]
  split <;> rfl

namespace Engine

open Flow (Steps Confined)

variable {timings : Timings}

/-- A handler that was asked whether its platform is there, what it came to, and what it told meanwhile. -/
structure Consulted where
  handler : Handler
  result : Except ConsentError Bool
  told : List Exchange

namespace Consulted

/-- The handler did what it does to find out, up to its result. -/
def IsDone (timings : Timings) (asked : Consulted) : Prop :=
  Steps (asked.handler.run timings .detect).run asked.told (.done asked.result)

/-- The handler has answered yes; a failure is none. -/
def saysYes (asked : Consulted) : Bool := Handler.outcome asked.result

def entries (asked : Consulted) : List JournalEntry :=
  [⟨asked.handler.call .detect, .begun⟩, ⟨asked.handler.call .detect, .came asked.saysYes⟩]

def story (asked : Consulted) : List Exchange :=
  ⟨.record ⟨asked.handler.call .detect, .begun⟩, ()⟩ ::
    (asked.told ++ [⟨.record ⟨asked.handler.call .detect, .came asked.saysYes⟩, ()⟩])

theorem noted_story {asked : Consulted} (done : asked.IsDone timings) : noted asked.story = asked.entries := by
  have silent := noted_run done
  change noted ([_] ++ (asked.told ++ [_])) = _
  rw [noted_append, noted_append, silent]
  rfl

theorem noted_stories {everyone : List Consulted} (done : ∀ asked ∈ everyone, asked.IsDone timings) :
    noted (everyone.flatMap Consulted.story) = everyone.flatMap Consulted.entries := by
  induction everyone with
  | nil => rfl
  | cons asked rest ih =>
      obtain ⟨first, others⟩ := List.forall_mem_cons.mp done
      rw [List.flatMap_cons, List.flatMap_cons, noted_append, noted_story first, ih others]

end Consulted

/-- Who is asked to an end begins, comes to a result and says what it is. -/
theorem consulted_of_attempt {handler : Handler} {story : List Exchange} {answer : Bool}
    (steps : Steps (handler.attempt timings .detect) story (.done answer)) :
    ∃ asked : Consulted, asked.handler = handler ∧ asked.IsDone timings ∧ asked.saysYes = answer ∧
      asked.story = story := by
  rw [attempt_eq] at steps
  rcases steps.ofAsk with ⟨-, never⟩ | ⟨begun, rest, rfl, onward⟩
  · cases never
  rcases onward.ofBind with ⟨moved, pending, -, never⟩ | ⟨result, told, last, runs, ends, rfl⟩
  · exact (unfinished pending never.symm).elim
  rcases ends.ofAsk with ⟨-, never⟩ | ⟨noted, rest, rfl, done⟩
  · cases never
  obtain ⟨is, rfl⟩ := done.ofDone
  cases is
  exact ⟨⟨handler, result, told⟩, rfl, runs, rfl, rfl⟩

theorem chosen_consulted (everyone : List Consulted) :
    chosen (everyone.map Consulted.handler) (everyone.map Consulted.saysYes) =
      (everyone.filter Consulted.saysYes).map Consulted.handler := by
  induction everyone with
  | nil => rfl
  | cons asked rest ih =>
      rw [chosen] at ih
      cases yes : asked.saysYes with
      | true => simp [chosen, yes, ih]
      | false => simp [chosen, yes, ih]

/-- Handlers that are asked side by side are each asked to an end. -/
theorem consulted_of_all (handlers : List Handler) : ∀ {story : List Exchange} {answers : List Bool},
    Steps (Flow.all (handlers.map fun handler => handler.attempt timings .detect)) story (.done answers) →
      ∃ everyone : List Consulted, everyone.map Consulted.handler = handlers ∧
        (∀ asked ∈ everyone, asked.IsDone timings) ∧ everyone.map Consulted.saysYes = answers ∧
        story.Perm (everyone.flatMap Consulted.story) := by
  induction handlers with
  | nil =>
      intro story answers steps
      obtain ⟨is, rfl⟩ := Steps.ofDone steps
      cases is
      exact ⟨[], rfl, List.forall_mem_nil _, rfl, .nil⟩
  | cons handler rest ih =>
      intro story answers steps
      rcases Steps.ofBoth steps with ⟨one, two, l, r, -, -, -, never⟩ |
        ⟨one, two, answer, others, meanwhile, later, mine, theirs, perm, ends, rfl⟩
      · cases never
      obtain ⟨is, rfl⟩ := ends.ofDone
      cases is
      obtain ⟨asked, rfl, done, yes, told⟩ := consulted_of_attempt mine
      obtain ⟨everyone, whole, all, answered, stories⟩ := ih theirs
      refine ⟨asked :: everyone, ?_, List.forall_mem_cons.mpr ⟨done, all⟩, ?_, ?_⟩
      · rw [List.map_cons, whole]
      · rw [List.map_cons, yes, answered]
      · rw [List.append_nil, List.flatMap_cons, told]
        exact perm.trans (stories.append_left one)

/-- The handlers that may run on the page as it is, where an unknown kind of frame is taken for the top one and an
unknown address is empty. -/
def participants (world : World) : List Handler :=
  world.engine.handlers.filter fun handler =>
    handler.allows (Primitive.orElse (world.page.perform .isTopFrame).1 true)
      (Primitive.orElse (world.page.perform .location).1 "")

theorem run_detectionPass (world : World) : (detectionPass timings).run world =
    ((Flow.all ((participants world).map fun handler => handler.attempt timings .detect)).bind fun answers =>
      .done (chosen (participants world) answers)).run world := by
  have framed := world.answer_page (world.page.perform_of_isLook (show PageCall.isTopFrame.IsLook from trivial))
  have addressed := world.answer_page world.page.perform_location
  rw [detectionPass_eq, Flow.run, framed]
  change Flow.run (.ask (.page .location) _) world = _
  rw [Flow.run, addressed]
  rfl

/-- What a pass does not change of the engine, and what it sends. -/
structure OnlyRequests (before after : Ledger) : Prop where
  engine : after.engine = before.engine
  sent : ∃ requests : List (String × String),
    after.sent = before.sent ++ requests.map fun request => .evalRequest request.1 request.2

/-- Requests that are made while handlers are asked. -/
def IsInquiry {β : Type} (request : Request β) : Prop :=
  request.Fits .detect ∨ ∃ entry, request.entry? = some entry

theorem onlyRequests_respects : Flow.Respects IsInquiry OnlyRequests where
  refl ledger := ⟨rfl, [], (List.append_nil _).symm⟩
  trans first second := by
    obtain ⟨engine, requests, sent⟩ := first
    obtain ⟨engineMore, requestsMore, sentMore⟩ := second
    refine ⟨engineMore.trans engine, requests ++ requestsMore, ?_⟩
    rw [sentMore, sent, List.append_assoc, List.map_append]
  reply {_ request _ before _} inquires replied := by
    rcases inquires with fits | ⟨entry, notes⟩
    · have quiet := Ledger.Quiet.of_reply fits replied
      exact ⟨quiet.engine, quiet.sent⟩
    · cases request with
      | record entry =>
          obtain rfl := replied
          exact ⟨rfl, [], (List.append_nil _).symm⟩
      | _ => cases notes

theorem confined_all_attempts (handlers : List Handler) :
    (Flow.all (handlers.map fun handler => handler.attempt timings .detect)).Confined IsInquiry true := by
  refine .all fun flow member => ?_
  obtain ⟨handler, -, rfl⟩ := List.mem_map.mp member
  exact confined_attempt timings (fun _ fits => .inl fits) fun _ => .inr ⟨_, rfl⟩

end Engine

/-- A detection pass in a rehearsal, with what was found and the rehearsal after it. -/
structure Pass where
  before : Rehearsal
  found : List Handler
  after : Rehearsal

namespace Pass

open Engine

variable {timings : Timings}

/-- What becomes of a pass in which everyone is asked who may run on the page as it is at the beginning. -/
structure Asks (timings : Timings) (pass : Pass) (everyone : List Consulted) : Prop where
  played : ∃ fuel, pass.before.playFlow fuel (detectionPass timings) = (some pass.found, pass.after)
  eligible : everyone.map Consulted.handler = participants pass.before.world
  done : ∀ asked ∈ everyone, asked.IsDone timings
  found : pass.found = (everyone.filter Consulted.saysYes).map Consulted.handler
  story : ∃ story, story.Perm (everyone.flatMap Consulted.story) ∧
    pass.before.world.ledger.Follows story pass.after.world.ledger
  journal : ∃ entries, entries.Perm (everyone.flatMap Consulted.entries) ∧
    pass.after.world.journal = pass.before.world.journal ++ entries
  sends : OnlyRequests pass.before.world.ledger pass.after.world.ledger

/-- A pass that was played asks everyone to an end. -/
theorem asks_of_played {pass : Pass} {fuel : Nat}
    (played : pass.before.playFlow fuel (detectionPass timings) = (some pass.found, pass.after)) :
    ∃ everyone, pass.Asks timings everyone := by
  have whole := played
  cases fuel with
  | zero => cases played
  | succ fuel =>
      rw [Rehearsal.playFlow_congr (run_detectionPass pass.before.world)] at played
      obtain ⟨answers, middle, rest, asks, ends⟩ := Rehearsal.playFlow_bind played
      obtain ⟨found, rfl⟩ : some (chosen (participants pass.before.world) answers) = some pass.found ∧
          middle = pass.after := by
        cases rest with
        | zero => cases ends
        | succ => exact Prod.mk.inj ends
      have turns := Rehearsal.playFlow_turns asks
      obtain ⟨story, steps, follows⟩ := turns.tells
      obtain ⟨everyone, eligible, done, answered, perm⟩ := consulted_of_all _ steps
      have requests := turns.respects onlyRequests_respects (confined_all_attempts _)
      refine ⟨everyone, ⟨_, whole⟩, eligible, done, ?_, ⟨story, perm, follows⟩,
        ⟨noted story, ?_, follows.journal⟩, requests⟩
      · rw [← Option.some.inj found, ← eligible, ← answered, chosen_consulted]
      · exact Consulted.noted_stories done ▸ perm.filterMap _

end Pass

/-! ## Searches -/

namespace Rehearsal

variable {rehearsal last : Rehearsal}

/-- What is asleep with nothing else to do is awake at its time, and has done nothing. -/
theorem playFlow_asleep {fuel due order : Nat}
    (played : rehearsal.playFlow fuel (.asleep due order (.done ())) = (some (), last))
    (early : rehearsal.world.clock ≤ due) :
    last.world.clock = due ∧ last.world.ledger = rehearsal.world.ledger := by
  induction fuel generalizing rehearsal with
  | zero => cases played
  | succ fuel ih =>
      by_cases awake : due ≤ rehearsal.world.clock
      · have runs : (Flow.asleep due order (.done ())).run rehearsal.world = (.done (), rehearsal.world) := by
          rw [Flow.run, if_pos awake, Flow.run]
        rcases playFlow_cases runs played with ⟨-, rfl⟩ | ⟨pending, -⟩
        · exact ⟨Nat.le_antisymm early awake, rfl⟩
        · cases pending
      · have runs : (Flow.asleep due order (.done ())).run rehearsal.world =
            (.asleep due order (.done ()), rehearsal.world) := by
          rw [Flow.run, if_neg awake]
        rcases playFlow_cases runs played with ⟨done, -⟩ | ⟨-, later, proceeds, onward⟩
        · cases done
        · have kept := proceeds.kept
          have inTime : later.world.clock ≤ due := by
            rcases kept.clock with same | ⟨-, within⟩
            · exact same ▸ early
            · exact within due rfl
          obtain ⟨clock, ledger⟩ := ih onward inTime
          exact ⟨clock, ledger.trans kept.ledger⟩

/-- A pause takes exactly its time, and nothing is done in it. -/
theorem playFlow_pause {fuel time : Nat} (played : rehearsal.playFlow fuel (Flow.pause time) = (some (), last)) :
    last.world.clock = rehearsal.world.clock + time ∧ last.world.ledger = rehearsal.world.ledger := by
  cases fuel with
  | zero => cases played
  | succ fuel =>
      by_cases short : time = 0
      · have runs : (Flow.pause time).run rehearsal.world = (.done (), rehearsal.world) := by
          rw [Flow.pause, Flow.run, if_pos short, Flow.run]
        rcases playFlow_cases runs played with ⟨-, rfl⟩ | ⟨pending, -⟩
        · exact ⟨short ▸ rfl, rfl⟩
        · cases pending
      · have runs : (Flow.pause time).run rehearsal.world =
            (.asleep (rehearsal.world.clock + time) rehearsal.world.order (.done ()),
              { rehearsal.world with order := rehearsal.world.order + 1 }) := by
          rw [Flow.pause, Flow.run, if_neg short]
        rcases playFlow_cases runs played with ⟨done, -⟩ | ⟨-, later, proceeds, onward⟩
        · cases done
        · have kept := proceeds.kept
          have inTime : later.world.clock ≤ rehearsal.world.clock + time := by
            rcases kept.clock with same | ⟨-, within⟩
            · exact same ▸ Nat.le_add_right _ _
            · exact within _ rfl
          obtain ⟨clock, ledger⟩ := playFlow_asleep onward inTime
          exact ⟨clock, ledger.trans kept.ledger⟩

def tell (rehearsal : Rehearsal) (messages : List Outbound) : Rehearsal :=
  { rehearsal with world := { rehearsal.world with sent := rehearsal.world.sent ++ messages } }

theorem tell_nil (rehearsal : Rehearsal) : rehearsal.tell [] = rehearsal := by
  rw [tell, List.append_nil]

end Rehearsal

namespace Engine

/-- The report of what was found: one message if more than one platform was. -/
def conflicts (found : List Handler) : List Outbound :=
  if 1 < found.length then [.detectionConflict (found.map Handler.name)] else []

/-- A report is sent at once. -/
theorem playFlow_reportConflict {fuel : Nat} {found : List Handler} {rehearsal last : Rehearsal}
    (played : rehearsal.playFlow fuel (reportConflict found) = (some (), last)) :
    last = rehearsal.tell (conflicts found) := by
  cases fuel with
  | zero => cases played
  | succ fuel =>
      match found with
      | [] | [_] =>
          obtain ⟨-, rfl⟩ := Prod.mk.inj played
          exact rehearsal.tell_nil.symm
      | one :: two :: rest =>
          obtain ⟨-, rfl⟩ := Prod.mk.inj played
          rw [conflicts, if_pos (by simp)]
          rfl

/-- The rehearsal in which the next pass begins: exactly the time between passes after one has ended, with nothing
done by the search meanwhile. -/
structure Resumes (timings : Timings) (pass : Pass) (next : Rehearsal) : Prop where
  waits : ∃ fuel, pass.after.playFlow fuel (Flow.pause timings.detect) = (some (), next)
  clock : next.world.clock = pass.after.world.clock + timings.detect
  ledger : next.world.ledger = pass.after.world.ledger

/-- What becomes of a search: some passes in vain, and a last one. -/
structure Search (timings : Timings) (retries : Nat) (start : Rehearsal) (vain : List Pass) (final : Pass)
    (last : Rehearsal) : Prop where
  /-- The first pass begins at once. -/
  begins : ∀ pass ∈ (vain ++ [final]).head?, pass.before = start
  asks : ∀ pass ∈ vain ++ [final], ∃ everyone, pass.Asks timings everyone
  resumes : (vain ++ [final]).IsChain fun pass next => Resumes timings pass next.before
  nothing : ∀ pass ∈ vain, pass.found = []
  within : vain.length ≤ retries
  /-- If nothing is found, no pass is left out. -/
  spent : final.found = [] → vain.length = retries
  /-- Nothing comes after the last pass but the report. -/
  ends : last = final.after.tell (conflicts final.found)
  /-- Who is registered does not change. -/
  engine : ∀ pass ∈ vain ++ [final], pass.before.world.engine = start.world.engine
  /-- Beside the report nothing is sent but requests for page script. -/
  sends : ∃ requests : List (String × String), last.world.sent =
    start.world.sent ++ (requests.map fun request => .evalRequest request.1 request.2) ++ conflicts final.found

namespace Search

variable {timings : Timings} {retries : Nat} {pass final : Pass} {vain : List Pass} {last : Rehearsal}

theorem single (asks : ∃ everyone, pass.Asks timings everyone) (spent : pass.found = [] → retries = 0) :
    Search timings retries pass.before [] pass (pass.after.tell (conflicts pass.found)) where
  begins := by simp
  asks := by simpa using asks
  resumes := .singleton pass
  nothing := List.forall_mem_nil _
  within := Nat.zero_le retries
  spent none := (spent none).symm
  ends := rfl
  engine := by simp
  sends := by
    obtain ⟨everyone, asks⟩ := asks
    obtain ⟨requests, sent⟩ := asks.sends.sent
    exact ⟨requests, congrArg (· ++ conflicts pass.found) sent⟩

theorem cons {middle : Rehearsal} (asks : ∃ everyone, pass.Asks timings everyone) (nothing : pass.found = [])
    (resumes : Resumes timings pass middle) (rest : Search timings retries middle vain final last) :
    Search timings (retries + 1) pass.before (pass :: vain) final last where
  begins := by simp
  asks := List.forall_mem_cons.mpr ⟨asks, rest.asks⟩
  resumes := List.isChain_cons.mpr ⟨fun next first => (rest.begins next first).symm ▸ resumes, rest.resumes⟩
  nothing := List.forall_mem_cons.mpr ⟨nothing, rest.nothing⟩
  within := Nat.succ_le_succ rest.within
  spent none := congrArg Nat.succ (rest.spent none)
  ends := rest.ends
  engine := by
    obtain ⟨everyone, asks⟩ := asks
    have kept : middle.world.engine = pass.before.world.engine :=
      (congrArg Ledger.engine resumes.ledger).trans asks.sends.engine
    exact List.forall_mem_cons.mpr ⟨rfl, fun next member => (rest.engine next member).trans kept⟩
  sends := by
    obtain ⟨everyone, asks⟩ := asks
    obtain ⟨requests, sent⟩ := asks.sends.sent
    obtain ⟨more, later⟩ := rest.sends
    have between : middle.world.sent = pass.after.world.sent := congrArg Ledger.sent resumes.ledger
    refine ⟨requests ++ more, ?_⟩
    rw [later, between, show pass.after.world.sent = _ from sent, List.map_append, ← List.append_assoc]
    rfl

end Search

/-- A pass is played, its report is sent, and then the search goes on. -/
theorem played_pass {timings : Timings} {onward : List Handler → Flow (List Handler)} {fuel : Nat}
    {start last : Rehearsal} {result : List Handler}
    (played : start.playFlow fuel ((detectionPass timings).bind fun found =>
      (reportConflict found).bind fun _ => onward found) = (some result, last)) :
    ∃ (pass : Pass) (rest : Nat), pass.before = start ∧ (∃ everyone, pass.Asks timings everyone) ∧
      (pass.after.tell (conflicts pass.found)).playFlow rest (onward pass.found) = (some result, last) := by
  obtain ⟨found, after, rest, asks, reports⟩ := Rehearsal.playFlow_bind played
  obtain ⟨_, middle, more, told, ends⟩ := Rehearsal.playFlow_bind reports
  obtain rfl := playFlow_reportConflict told
  exact ⟨⟨start, found, after⟩, more, rfl, Pass.asks_of_played asks, ends⟩

theorem search_of_played {timings : Timings} (retries : Nat) : ∀ {fuel : Nat} {start last : Rehearsal}
    {found : List Handler}, start.playFlow fuel (findCandidates timings retries) = (some found, last) →
      ∃ (vain : List Pass) (final : Pass), final.found = found ∧ Search timings retries start vain final last := by
  -- What is played of a flow that is done.
  have finished : ∀ {fuel : Nat} {rehearsal last : Rehearsal} {one result : List Handler},
      rehearsal.playFlow fuel (.done one) = (some result, last) → one = result ∧ rehearsal = last := by
    intro fuel rehearsal last one result played
    cases fuel with
    | zero => cases played
    | succ fuel =>
        obtain ⟨is, rfl⟩ := Prod.mk.inj played
        exact ⟨Option.some.inj is, rfl⟩
  induction retries with
  | zero =>
      intro fuel start last found played
      obtain ⟨pass, rest, rfl, asks, ends⟩ := played_pass played
      obtain ⟨rfl, rfl⟩ := finished ends
      exact ⟨[], pass, rfl, .single asks fun _ => rfl⟩
  | succ retries ih =>
      intro fuel start last found played
      obtain ⟨pass, rest, rfl, asks, onward⟩ := played_pass played
      split at onward
      next empty =>
        have nothing : pass.found = [] := List.isEmpty_iff.mp empty
        rw [nothing, conflicts, if_neg (by simp), Rehearsal.tell_nil] at onward
        obtain ⟨_, middle, more, waits, again⟩ := Rehearsal.playFlow_bind onward
        obtain ⟨clock, ledger⟩ := Rehearsal.playFlow_pause waits
        obtain ⟨vain, final, same, search⟩ := ih again
        exact ⟨pass :: vain, final, same, search.cons asks nothing ⟨⟨_, waits⟩, clock, ledger⟩⟩
      next some =>
        obtain ⟨rfl, rfl⟩ := finished onward
        exact ⟨[], pass, rfl, .single asks fun nothing => absurd (List.isEmpty_iff.mpr nothing) some⟩

/-- Whatever the page becomes meanwhile, a search comes to an end: it makes passes until the first one that finds
something, at most one more than it may retry, each of the others a fixed time after the one before.  It comes to
what its last pass has found, and sends one report if this is more than one platform. -/
theorem findCandidates_searches (timings : Timings) (retries : Nat) (start : Rehearsal) :
    ∃ (vain : List Pass) (final : Pass) (last : Rehearsal), (∃ enough, ∀ fuel, enough ≤ fuel →
        start.playFlow fuel (findCandidates timings retries) = (some final.found, last)) ∧
      Search timings retries start vain final last := by
  have alone : Steady (fun _ => True) (findCandidates timings retries) := steady_findCandidates timings trivial retries
  obtain ⟨found, last, enough, plays, -⟩ := start.plays alone
  obtain ⟨vain, final, rfl, search⟩ := search_of_played retries (plays enough (Nat.le_refl _))
  exact ⟨vain, final, last, ⟨enough, plays⟩, search⟩

end Engine

end ConsentBanner

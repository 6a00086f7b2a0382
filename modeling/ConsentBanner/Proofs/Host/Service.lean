import ConsentBanner.Proofs.Engine.Completion
import ConsentBanner.Proofs.Host.Course

/-!
# A faithful service

A host that serves an engine loses and reorders nothing: it passes on every message but the requests for
page script, and answers each of those once, with what the page replied to it.  Every task owes at most one
answer, from when the host heard of the request until the value is handed in.  Main statement:
`Host.serve_faithful`, what holds when a host returns, whatever course the service took.
-/

set_option autoImplicit false

namespace ConsentBanner

open Flow (Step Steps)

/-- An answer: the request that it is for, and what the page replied. -/
structure Answer where
  id : String
  code : String
  reply : Except PageError Json

namespace Answer

def request (answer : Answer) : String × String := (answer.id, answer.code)

/-- The value that is handed in. -/
def handed (answer : Answer) : String × Json := (answer.id, Primitive.orElse answer.reply .null)

/-- First the request is heard, then the page replies. -/
def origin (answer : Answer) : List Happening :=
  [.heard (.evalRequest answer.id answer.code), .evaluated answer.code answer.reply]

end Answer

/-- What is handed in was asked for before, and is what the page then replied, or null if it failed. -/
def Founded (before : List Happening) : Happening → Prop
  | .handedIn id value => ∃ answer : Answer, answer.origin.Sublist before ∧ (id, value) = answer.handed
  | _ => True

namespace Host

def handIn (id : String) (value : Json) : Flow Unit := .ask (.resolve id value) fun _ => .done ()

theorem evaluate_eq (timings : Timings) (id code : String) : evaluate timings id code =
    .ask (.page (.evaluate code)) fun reply => handIn id (Primitive.orElse reply .null) := rfl

/-- What a task does: the engine's work, or it owes the answer to a request. -/
inductive Does (history : List Happening) : Flow Unit → Option (String × String) → Prop where
  | own {flow : Flow Unit} (confined : flow.Confined Request.IsOwn false) : Does history flow none
  | evaluates {id code : String} (timings : Timings)
      (asked : [.heard (.evalRequest id code)].Sublist history) :
      Does history (evaluate timings id code) (some (id, code))
  | answers {answer : Answer} (origin : answer.origin.Sublist history) :
      Does history (handIn answer.id answer.handed.2) (some answer.request)

theorem Does.mono {history more : List Happening} {flow : Flow Unit} {owed : Option (String × String)}
    (does : Does history flow owed) (within : history.Sublist more) : Does more flow owed := by
  cases does with
  | own confined => exact .own confined
  | evaluates timings asked => exact .evaluates timings (asked.trans within)
  | answers origin => exact .answers (origin.trans within)

theorem Does.leaves {history : List Happening} {flow : Flow Unit} {owed : Option (String × String)}
    (does : Does history flow owed) : flow.LeavesCovered := by
  have hands : ∀ id value, (handIn id value).Confined (fun _ => True) false := fun _ _ =>
    ⟨⟨trivial, trivial⟩, fun _ => trivial⟩
  cases does with
  | own confined => exact confined.leaves
  | answers _ => exact (hands _ _).leaves
  | @evaluates id code timings _ =>
      have evaluates : (evaluate timings id code).Confined (fun _ => True) false := by
        rw [evaluate_eq]
        exact ⟨⟨trivial, trivial⟩, fun _ => hands _ _⟩
      exact evaluates.leaves

/-- What is done owes nothing any more. -/
theorem Does.done {history : List Happening} {owed : Option (String × String)}
    (does : Does history (.done ()) owed) : owed = none := by
  generalize ended : Flow.done () = flow at does
  cases does with
  | own _ => rfl
  | evaluates timings _ => cases ended
  | answers _ => cases ended

/-- The engine's own work is nothing but calls to the page, as far as page script is concerned. -/
theorem evaluated_of_own {story : List Exchange} (allowed : Flow.Allowed Request.IsOwn story) :
    ∀ happening ∈ happenings story, ∃ code reply, happening = .evaluated code reply := by
  intro happening member
  obtain ⟨⟨request, reply⟩, within, is⟩ := List.mem_filterMap.mp member
  have own := allowed _ within
  cases request with
  | page call =>
      cases call with
      | evaluate code => exact ⟨code, reply, (Option.some.inj is).symm⟩
      | _ => cases is
  | resolve id value => cases own
  | _ => cases is

/-- What a task does in a while: the answers that it gives, and what it owes afterwards. -/
structure Works (history : List Happening) (owed : Option (String × String)) (story : List Exchange)
    (flow : Flow Unit) (answers : List Answer) (owes : Option (String × String)) : Prop where
  does : Does (history ++ happenings story) flow owes
  handed : handedIn (happenings story) = answers.map Answer.handed
  owed : owed.toList.Perm (answers.map Answer.request ++ owes.toList)
  founded : Throughout Founded history → Throughout Founded (history ++ happenings story)

theorem Does.step {history : List Happening} {flow moved : Flow Unit} {owed : Option (String × String)}
    {told : List Exchange} (does : Does history flow owed) (step : Step flow told moved) :
    ∃ answers owes, Works history owed told moved answers owes := by
  cases does with
  | own confined =>
      obtain ⟨still, allowed⟩ := step.confined confined
      have evaluates := evaluated_of_own allowed
      refine ⟨[], none, .own still, ?_, .refl _, fun founded => founded.append ?_⟩
      · refine List.filterMap_eq_nil_iff.mpr fun happening member => ?_
        obtain ⟨code, reply, rfl⟩ := evaluates happening member
        rfl
      · intro before happening after split
        obtain ⟨code, reply, rfl⟩ := evaluates happening (by rw [split]; simp)
        trivial
  | @evaluates id code timings asked =>
      rw [evaluate_eq] at step
      cases step with
      | ask _ _ reply =>
          have origin := asked.append (List.Sublist.refl [Happening.evaluated code reply])
          refine ⟨[], some (id, code), ?_, rfl, .refl _, fun founded => founded.snoc trivial⟩
          exact @Does.answers _ ⟨id, code, reply⟩ origin
  | @answers answer origin =>
      cases step with
      | ask _ _ taken =>
          refine ⟨[answer], none, .own trivial, rfl, .refl _, fun founded => founded.snoc ?_⟩
          exact ⟨answer, origin, rfl⟩

theorem Does.steps {history : List Happening} {flow moved : Flow Unit} {owed : Option (String × String)}
    {story : List Exchange} (does : Does history flow owed) (steps : Steps flow story moved) :
    ∃ answers owes, Works history owed story moved answers owes := by
  induction steps generalizing history owed with
  | refl flow =>
      have same : history ++ happenings [] = history := List.append_nil history
      exact ⟨[], owed, same.symm ▸ does, rfl, .refl _, fun founded => same.symm ▸ founded⟩
  | @head flow between after told story step _ ih =>
      obtain ⟨given, still, first⟩ := does.step step
      obtain ⟨more, owes, rest⟩ := ih first.does
      have whole : history ++ happenings (told ++ story) =
          history ++ happenings told ++ happenings story := by
        rw [happenings_append, List.append_assoc]
      refine ⟨given ++ more, owes, whole.symm ▸ rest.does, ?_, ?_, fun founded => ?_⟩
      · rw [happenings_append, handedIn_append, first.handed, rest.handed, List.map_append]
      · rw [List.map_append, List.append_assoc]
        exact first.owed.trans (rest.owed.append_left _)
      · rw [whole]
        exact rest.founded (first.founded founded)

/-! ## What is kept while a host serves -/

def owing (duties : List (Task × Option (String × String))) : List (String × String) :=
  duties.flatMap fun duty => duty.2.toList

/-- Every request that was heard is answered, or a task owes the answer. -/
structure Owing (history : List Happening) (tasks : List Task)
    (duties : List (Task × Option (String × String))) (answers : List Answer) : Prop where
  tasks : tasks = duties.map Prod.fst
  does : ∀ duty ∈ duties, Does history duty.1.flow duty.2
  handed : handedIn history = answers.map Answer.handed
  owed : (requests (heard history)).Perm (answers.map Answer.request ++ owing duties)

/-- What is found true of a host between two steps. -/
structure Serving (world : World) (history : List Happening) (host : Host) : Prop where
  waiting : heard history <+: host.world.sent
  handled : (heard history).length = host.handled
  emitted : host.emitted.map Prod.snd = (heard history).filter isEmitted
  owing : ∃ duties answers, Owing history host.tasks duties answers
  founded : Throughout Founded history
  covered : host.world.bridge.Covered (· ∈ world.bridge.pending)
    (host.tasks.flatMap fun task => task.flow.awaited)

theorem own_announce : Engine.announce.Confined Request.IsOwn false :=
  Flow.Confined.open_ <| Engine.alone_steady <|
    .andThen Engine.steady_url fun _ => Engine.steady_send _

theorem own_setUp (timings : Timings) (config : EngineConfig) (rules : RuleSet) :
    (Engine.receive timings (.initResponse config rules)).Confined Request.IsOwn false :=
  Flow.Confined.open_ (.andThen (Engine.alone_setUp timings config rules) fun _ => .pure _)

theorem own_selfTest (timings : Timings) :
    (Engine.receive timings .selfTest).Confined Request.IsOwn false :=
  Flow.Confined.open_ <| .andThen (Engine.alone_steady (Engine.steady_selfTest timings trivial)) fun _ => .pure _

theorem serving_start (world : World) (timings : Timings) (config : EngineConfig)
    (rules : RuleSet) : Serving world [] (start world timings config rules) where
  waiting := List.nil_prefix
  handled := rfl
  emitted := rfl
  owing := by
    refine ⟨[(⟨Engine.announce, some world.order⟩, none)], [], rfl, fun duty member => ?_, rfl, .refl _⟩
    obtain rfl := List.mem_singleton.mp member
    exact .own own_announce
  founded := .nil
  covered := fun id pending => .inl pending

/-- What the host does about a message: it may have one more thing done, and owes the answer if it is a
request for page script. -/
theorem respond_adds (host : Host) (message : Outbound) :
    ∃ more : List (Task × Option (String × String)),
      (host.respond message).tasks = host.tasks ++ more.map Prod.fst ∧
      (∀ duty ∈ more, Does [.heard message] duty.1.flow duty.2) ∧ requests [message] = owing more ∧
      (host.respond message).world.bridge = host.world.bridge ∧
      (host.respond message).world.sent = host.world.sent ∧
      (host.respond message).emitted = host.emitted ∧ (host.respond message).handled = host.handled := by
  have nothing : ∀ duty ∈ ([] : List (Task × Option (String × String))),
      Does [.heard message] duty.1.flow duty.2 := nofun
  have same : host.tasks = host.tasks ++ [] := (List.append_nil _).symm
  unfold respond
  split
  next =>
    refine ⟨[(_, none)], rfl, fun duty member => ?_, rfl, rfl, rfl, rfl, rfl⟩
    obtain rfl := List.mem_singleton.mp member
    exact .own (own_setUp _ _ _)
  next id code =>
    refine ⟨[(_, some (id, code))], rfl, fun duty member => ?_, rfl, rfl, rfl, rfl, rfl⟩
    obtain rfl := List.mem_singleton.mp member
    exact .evaluates _ (.refl _)
  next => exact ⟨[], same, nothing, rfl, rfl, rfl, rfl, rfl⟩
  next => exact ⟨[], same, nothing, rfl, rfl, rfl, rfl, rfl⟩
  next =>
    split
    · refine ⟨[(_, none)], rfl, fun duty member => ?_, rfl, rfl, rfl, rfl, rfl⟩
      obtain rfl := List.mem_singleton.mp member
      exact .own (own_selfTest _)
    · exact ⟨[], same, nothing, rfl, rfl, rfl, rfl, rfl⟩
  next noRequest _ _ _ =>
    refine ⟨[], same, nothing, ?_, rfl, rfl, rfl, rfl⟩
    cases message <;> first | rfl | exact (noRequest _ _ rfl).elim

variable {world : World} {history : List Happening} {host : Host}

theorem Serving.hear (serving : Serving world history host) {message : Outbound}
    (waits : host.message? = some message) :
    Serving world (history ++ [.heard message]) (host.handle message) := by
  have more : heard (history ++ [.heard message]) = heard history ++ [message] := heard_append _ _
  have silent : handedIn (history ++ [.heard message]) = handedIn history :=
    (handedIn_append _ _).trans (List.append_nil _)
  let counted : Host :=
    { host with
      handled := host.handled + 1
      emitted := if isEmitted message then host.emitted ++ [(host.world.clock, message)] else host.emitted }
  have handles : host.handle message = counted.respond message := by
    unfold Host.handle
    by_cases passed : isEmitted message <;> simp [counted, passed]
  obtain ⟨duties, answers, owing⟩ := serving.owing
  obtain ⟨added, tasks, does, owed, bridge, sent, emitted, handled⟩ := counted.respond_adds message
  rw [handles]
  refine ⟨?_, ?_, ?_, ⟨duties ++ added, answers, ?_, ?_, silent.trans owing.handed, ?_⟩,
    serving.founded.snoc trivial, ?_⟩
  · rw [sent, more]
    obtain ⟨rest, split⟩ := serving.waiting
    have first : rest[0]? = some message := by
      have at_ : host.world.sent[host.handled]? = some message := waits
      rw [← split, ← serving.handled, List.getElem?_append_right (Nat.le_refl _), Nat.sub_self] at at_
      exact at_
    cases rest with
    | nil => cases first
    | cons head tail =>
        obtain rfl := Option.some.inj first
        exact ⟨tail, by rw [List.append_assoc]; exact split⟩
  · rw [handled, more, List.length_append]
    exact congrArg (· + 1) serving.handled
  · rw [emitted, more, List.filter_append, ← serving.emitted]
    by_cases passed : isEmitted message <;> simp [counted, passed]
  · rw [tasks, List.map_append, ← owing.tasks]
  · intro duty member
    rcases List.mem_append.mp member with old | new
    · exact (owing.does duty old).mono (List.sublist_append_left _ _)
    · exact (does duty new).mono (List.sublist_append_right _ _)
  · have together : Host.owing (duties ++ added) = Host.owing duties ++ Host.owing added := List.flatMap_append
    rw [more, requests_append, owed, together, ← List.append_assoc]
    exact owing.owed.append_right _
  · rw [bridge, tasks, List.flatMap_append]
    exact serving.covered.subset (List.subset_append_left _ _)

/-- What the tasks owe when one of them went on: it has answered what it owed, or it still owes it. -/
theorem Owing.goOn {duties : List (Task × Option (String × String))} {answers : List Answer}
    {ahead behind : List Task} {task : Task} {flow : Flow Unit} {after : World} {story : List Exchange}
    (owing : Owing history (ahead ++ task :: behind) duties answers) (steps : task.flow.Steps story flow) :
    (∃ duties answers, Owing (history ++ happenings story) (host.afterTask ahead behind flow after).tasks duties
      answers) ∧ (Throughout Founded history → Throughout Founded (history ++ happenings story)) := by
  have silent : heard (history ++ happenings story) = heard history := by
    rw [heard_append, heard_happenings, List.append_nil]
  obtain ⟨before, rest, rfl, rfl, isRest⟩ := List.map_eq_append_iff.mp owing.tasks.symm
  obtain ⟨⟨own, owed⟩, later, rfl, rfl, rfl⟩ := List.map_eq_cons_iff.mp isRest
  obtain ⟨given, owes, works⟩ := (owing.does (own, owed) (by simp)).steps steps
  refine ⟨?_, works.founded⟩
  have others : ∀ duty ∈ before ++ later, Does (history ++ happenings story) duty.1.flow duty.2 := by
    intro duty member
    exact (owing.does duty (subset_insert _ before later member)).mono (List.sublist_append_left _ _)
  have handed : handedIn (history ++ happenings story) = (answers ++ given).map Answer.handed := by
    rw [handedIn_append, owing.handed, works.handed, List.map_append]
  -- What the task owed it has answered, or it still owes it.
  have balance : (requests (heard history)).Perm
      ((answers ++ given).map Answer.request ++ (Host.owing before ++ owes.toList ++ Host.owing later)) := by
    have due : (requests (heard history)).Perm
        (answers.map Answer.request ++ (Host.owing before ++ (owed.toList ++ Host.owing later))) := by
      simpa [Host.owing] using owing.owed
    refine due.trans ?_
    rw [List.map_append, List.append_assoc, List.append_assoc]
    refine List.Perm.append_left _ ?_
    have mine := works.owed.append_right (Host.owing later)
    rw [List.append_assoc] at mine
    exact (mine.append_left (Host.owing before)).trans (List.perm_append_comm_assoc _ _ _)
  rw [Host.afterTask]
  cases done : flow.value? with
  | some value =>
      obtain rfl := Flow.value?_eq_some.mp done
      obtain rfl := works.does.done
      refine ⟨before ++ later, answers ++ given, List.map_append.symm, others, handed, ?_⟩
      rw [silent, Host.owing, List.flatMap_append]
      simpa [Host.owing] using balance
  | none =>
      refine ⟨before ++ (⟨flow, none⟩, owes) :: later, answers ++ given, ?_, ?_, handed, ?_⟩
      · rw [List.map_append, List.map_cons]
      · intro duty member
        rcases mem_insert member with rfl | other
        · exact works.does
        · exact others duty other
      · rw [silent]
        simpa [Host.owing] using balance

theorem covered_afterTask {ahead behind : List Task} {task : Task} {flow : Flow Unit} {after : World}
    {free : String → Prop}
    (covered : host.world.bridge.Covered free ((ahead ++ task :: behind).flatMap fun task => task.flow.awaited))
    (leaves : ∀ free, host.world.bridge.Covered free task.flow.awaited → after.bridge.Covered free flow.awaited) :
    after.bridge.Covered free
      ((host.afterTask ahead behind flow after).tasks.flatMap fun task => task.flow.awaited) := by
  have awaited : host.world.bridge.Covered free
      (((ahead ++ behind).flatMap fun task => task.flow.awaited) ++ task.flow.awaited) := by
    refine covered.subset fun id awaits => ?_
    simp only [List.flatMap_append, List.flatMap_cons, List.mem_append] at awaits ⊢
    tauto
  refine (leaves _ awaited.ofAppend).append.subset fun id awaits => ?_
  rw [Host.afterTask]
  cases done : flow.value? with
  | some value =>
      obtain rfl := Flow.value?_eq_some.mp done
      simpa [Flow.awaited] using awaits
  | none =>
      simp only [List.flatMap_append, List.flatMap_cons, List.mem_append] at awaits ⊢
      tauto

theorem Serving.goOn (serving : Serving world history host) {ahead behind : List Task} {task : Task}
    {flow : Flow Unit} {after : World} {story : List Exchange} (tasks : host.tasks = ahead ++ task :: behind)
    (steps : task.flow.Steps story flow) (follows : host.world.ledger.Follows story after.ledger)
    (leaves : ∀ free, host.world.bridge.Covered free task.flow.awaited →
      after.bridge.Covered free flow.awaited) :
    Serving world (history ++ happenings story) (host.afterTask ahead behind flow after) := by
  have silent : heard (history ++ happenings story) = heard history := by
    rw [heard_append, heard_happenings, List.append_nil]
  obtain ⟨duties, answers, owing⟩ := serving.owing
  have covered := serving.covered
  rw [tasks] at owing covered
  obtain ⟨owes, founded⟩ := owing.goOn steps
  refine ⟨?_, ?_, ?_, owes, founded serving.founded, covered_afterTask covered leaves⟩
  · rw [silent]
    exact serving.waiting.trans follows.sent
  · rw [silent]
    exact serving.handled
  · rw [silent]
    exact serving.emitted

theorem Serving.leaves (serving : Serving world history host) {task : Task} (member : task ∈ host.tasks) :
    task.flow.LeavesCovered := by
  obtain ⟨duties, answers, owing⟩ := serving.owing
  rw [owing.tasks] at member
  obtain ⟨duty, within, rfl⟩ := List.mem_map.mp member
  exact (owing.does duty within).leaves

theorem Course.serving {timings : Timings} {config : EngineConfig} {rules : RuleSet}
    (course : Course (start world timings config rules) history host) : Serving world history host := by
  induction course with
  | here => exact serving_start world timings config rules
  | step _ happens ih =>
      cases happens with
      | hear waits => exact ih.hear waits
      | goOn tasks steps follows leaves => exact ih.goOn tasks steps follows leaves
      | @aside after steps ledger bridge =>
          have sent : after.sent = _ := congrArg Ledger.sent ledger
          rw [List.append_nil]
          refine ⟨?_, ih.handled, ih.emitted, ih.owing, ih.founded, ?_⟩
          · exact sent.symm ▸ ih.waiting
          · exact bridge.symm ▸ ih.covered

/-! ## Runs are courses -/

theorem Course.runTask {first : Host} (course : Course first history host)
    (serving : Serving world history host) (place : Nat) :
    ∃ more, Course first (history ++ more) (host.runTask place) := by
  unfold Host.runTask
  split
  next => exact ⟨[], (List.append_nil history).symm ▸ course⟩
  next task found =>
    obtain ⟨inside, rfl⟩ := List.getElem?_eq_some_iff.mp found
    have tasks : host.tasks = host.tasks.take place ++ host.tasks[place] :: host.tasks.drop (place + 1) := by
      rw [← List.drop_eq_getElem_cons inside, List.take_append_drop]
    have leaves := serving.leaves (List.getElem_mem inside)
    have ran := (host.tasks[place].flow.run_adequate host.world).runs.turns.tells
    generalize runs : host.tasks[place].flow.run host.world = result at ran
    obtain ⟨flow, after⟩ := result
    obtain ⟨story, steps, follows⟩ := ran
    have onward := course.step (.goOn tasks steps follows fun free covered => runs ▸ leaves free _ covered)
    refine ⟨happenings story, ?_⟩
    simp only [Host.afterTask] at onward ⊢
    generalize flow.value? = ended at onward ⊢
    cases ended with
    | some value =>
        simp only [List.eraseIdx_eq_take_drop_succ]
        exact onward
    | none =>
        simp only [List.set_eq_take_append_cons_drop, if_pos inside]
        exact onward

theorem Course.step? {first : Host} (course : Course first history host)
    (serving : Serving world history host) {prefers : Preference} {next : Host}
    (steps : host.step? prefers = some next) : ∃ more, Course first (history ++ more) next := by
  have counting : Course first (history ++ []) { host with steps := host.steps + 1 } :=
    course.step (.aside (host.steps + 1) rfl rfl)
  rw [List.append_nil] at counting
  have stillServing : Serving world history { host with steps := host.steps + 1 } :=
    ⟨serving.waiting, serving.handled, serving.emitted, serving.owing, serving.founded, serving.covered⟩
  have hears : ∀ message, host.message? = some message →
      ∃ more, Course first (history ++ more) ({ host with steps := host.steps + 1 }.handle message) :=
    fun message waits => ⟨_, counting.step (.hear waits)⟩
  have goesOn := fun place => counting.runTask stillServing place
  unfold Host.step? at steps
  simp only at steps
  split at steps
  next => cases steps
  next message waits _ =>
    obtain rfl := Option.some.inj steps
    exact hears message waits
  next place _ _ _ =>
    obtain rfl := Option.some.inj steps
    exact goesOn place
  next message place _ waits _ =>
    obtain rfl := Option.some.inj steps
    split
    · exact hears message waits
    · exact goesOn place

theorem Course.applyAll {first : Host} (changes : List (List Effect)) : ∀ {host : Host},
    Course first history host → Course first history (changes.foldl apply host) := by
  induction changes with
  | nil => exact fun course => course
  | cons effects rest ih =>
      intro host course
      have applied := course.step (.aside host.steps (show (host.apply effects).world.ledger = _ from rfl) rfl)
      rw [List.append_nil] at applied
      exact ih applied

theorem Course.run {timings : Timings} {config : EngineConfig} {rules : RuleSet} (prefers : Preference)
    (fuel : Nat) : ∀ (agenda : Agenda (List Effect)) {history : List Happening} {host : Host},
      Course (start world timings config rules) history host →
        ∃ more, Course (start world timings config rules) (history ++ more) (host.run prefers fuel agenda) := by
  induction fuel with
  | zero => exact fun _ _ _ course => ⟨[], (List.append_nil _).symm ▸ course⟩
  | succ fuel ih =>
      intro agenda history host course
      -- Whatever comes next, the rest of the run goes on from there.
      have onward : ∀ {later more} (agenda : Agenda (List Effect)),
          Course (start world timings config rules) (history ++ more) later →
          ∃ more, Course (start world timings config rules) (history ++ more) (later.run prefers fuel agenda) := by
        intro later more agenda course
        obtain ⟨rest, whole⟩ := ih agenda course
        exact ⟨more ++ rest, List.append_assoc _ _ _ ▸ whole⟩
      unfold Host.run
      split
      next next steps =>
        obtain ⟨more, course⟩ := course.step? course.serving steps
        exact onward agenda course
      next =>
        split
        · exact ⟨[], (List.append_nil _).symm ▸ course⟩
        · simp only
          split
          · split
            · exact onward agenda (course.step (.aside host.steps rfl rfl))
            · exact ⟨[], (List.append_nil _).symm ▸ course⟩
          · have applied := course.applyAll (agenda.due host.world.clock)
            rw [← List.append_nil history] at applied
            exact onward _ applied

/-! ## When the host returns -/

/-- When no task is left the host handles what is waiting, and returns unless there is more to do then. -/
structure Returns (host last : Host) : Prop where
  idle : host.tasks = []
  drained : last = host.drain
  still : last.tasks = []

/-- What holds of a service when the host returns.  The table of open requests is empty if it was so in the
beginning. -/
structure Served (world : World) (history : List Happening) (last : Host) : Prop where
  passedOn : last.emitted.map Prod.snd = last.world.sent.filter isEmitted
  heard : heard history = last.world.sent
  answered : ∃ answers : List Answer, handedIn history = answers.map Answer.handed ∧
    (answers.map Answer.request).Perm (requests last.world.sent)
  founded : Throughout Founded history
  drained : last.message? = none
  idle : last.tasks = []
  closed : last.world.bridge.pending ⊆ world.bridge.pending

theorem Serving.served (serving : Serving world history host)
    (all : host.world.sent.length ≤ (heard history).length) (idle : host.tasks = []) :
    Served world history host := by
  have whole : heard history = host.world.sent := serving.waiting.eq_of_length_le all
  obtain ⟨duties, answers, owing⟩ := serving.owing
  obtain rfl : duties = [] := List.map_eq_nil_iff.mp (owing.tasks.symm.trans idle)
  refine ⟨whole ▸ serving.emitted, whole, ⟨answers, owing.handed, ?_⟩, serving.founded, ?_, idle, ?_⟩
  · have owed := owing.owed
    rw [Host.owing, List.flatMap_nil, List.append_nil, whole] at owed
    exact owed.symm
  · exact List.getElem?_eq_none (serving.handled ▸ all)
  · intro id pending
    have known := serving.covered id pending
    rw [idle] at known
    exact known.resolve_right List.not_mem_nil

theorem drain_sent (host : Host) : host.drain.world.sent = host.world.sent := by
  unfold Host.drain
  generalize host.world.sent.drop host.handled = messages
  induction messages generalizing host with
  | nil => rfl
  | cons message rest ih => exact (ih _).trans (host.handle_sent message).1

/-- Whatever the page replies, in whatever order tasks go on and messages are heard, when the host returns it
has passed on every message of the engine but the requests for page script, in order, has answered each
request once with what the page replied, and left nothing behind.  At any time any task may go on as it is,
and what a host does when it is run is such a course. -/
theorem serve_faithful (world : World) (timings : Timings) (config : EngineConfig) (rules : RuleSet) :
    (∀ history host last, Course (start world timings config rules) history host → Returns host last →
      Served world (history ++ (host.world.sent.drop host.handled).map .heard) last) ∧
    (∀ history host place, Course (start world timings config rules) history host →
      ∃ more, Course (start world timings config rules) (history ++ more) (host.runTask place)) ∧
    ∀ prefers fuel agenda, ∃ history, Course (start world timings config rules) history
      ((start world timings config rules).run prefers fuel agenda) := by
  refine ⟨?_, fun history host place course => course.runTask course.serving place, ?_⟩
  · rintro history host last course ⟨idle, rfl, still⟩
    have drained := course.drain.serving
    refine drained.served ?_ still
    have serving := course.serving
    have before := serving.handled
    have each : ∀ messages : List Outbound, heard (messages.map .heard) = messages := by
      intro messages
      induction messages with
      | nil => rfl
      | cons message rest ih => exact congrArg (message :: ·) ih
    rw [drain_sent, heard_append, each, List.length_append, List.length_drop]
    omega
  · intro prefers fuel agenda
    exact Course.run prefers fuel agenda .here

def scriptedPage : Snapshot :=
  { Snapshot.ofText "" with scripts := [("hasBanner()", .bool true), ("refuse()", .bool true)] }

/-- A handler that has it all done by page script, and can tell that it had effect. -/
def scriptedRule : StepRule :=
  ⟨"banner", [], .topFrameOnly, false, some [.single (.eval "hasBanner()")], some [],
    some [.single (.eval "refuse()")], none, none, some []⟩

/-- An engine with one handler, served in turns. -/
def scriptedService : Host :=
  (start (Engine.untouchedPage scriptedPage [.steps scriptedRule]) .usual ⟨true, .optOut, [], false, 0⟩
    .empty).run (fun step => step % 2 == 0) 40 []

theorem serve_faithful_selfTest : ∃ history, Returns scriptedService scriptedService ∧
    Served (Engine.untouchedPage scriptedPage [.steps scriptedRule]) history scriptedService ∧
    requests scriptedService.world.sent = [("e1", "hasBanner()"), ("e2", "refuse()")] ∧
    scriptedService.emitted.map Prod.snd =
      [.init "https://snapshot.test/", .cmpDetected "https://snapshot.test/" "banner",
        .popupFound "banner" "https://snapshot.test/",
        .optOutResult "banner" true true "https://snapshot.test/",
        .autoconsentDone "banner" "https://snapshot.test/",
        .selfTestResult "banner" true "https://snapshot.test/"] := by
  obtain ⟨history, course⟩ := (serve_faithful (Engine.untouchedPage scriptedPage [.steps scriptedRule]) .usual
    ⟨true, .optOut, [], false, 0⟩ .empty).2.2 (fun step => step % 2 == 0) 40 []
  have idle : scriptedService.tasks = [] := List.isEmpty_iff.mp (by decide +kernel)
  have nothing : scriptedService.world.sent.drop scriptedService.handled = [] := by decide +kernel
  have returns : Returns scriptedService scriptedService := by
    refine ⟨idle, ?_, idle⟩
    rw [drain, nothing, List.foldl_nil]
  have served := (serve_faithful _ _ _ _).1 history _ _ course returns
  exact ⟨_, returns, served, by decide +kernel, by decide +kernel⟩

end Host

end ConsentBanner

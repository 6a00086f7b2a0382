import ConsentBanner.Proofs.Host.Jobs

/-!
# Milestones of a service

A host begins its jobs by what it hears: the engine starts when it has announced itself, and tests itself when a
refusal that asks for it has completed the page.  `Host.Attends` relates the jobs that have begun to the
milestones that were heard, and `Course.attends` says that this is so whatever course a service takes.
-/

set_option autoImplicit false

namespace ConsentBanner.Host

open Engine (Decision)
open Flow (Steps Allowed)

/-- The messages that tell how far the engine has come. -/
abbrev milestones (messages : List Outbound) : List Outbound := messages.filter Outbound.isMilestone

inductive Passed : List Outbound → Prop where
  | none : Passed []
  | announced (place : String) : Passed [.init place]
  | decided (place : String) (decision : Decision) (cmp : String) (result tests : Bool) (url : String) :
      Passed [.init place, decision.report cmp result tests url]
  | completed (place : String) (decision : Decision) (cmp : String) (tests : Bool) (url : String) :
      Passed [.init place, decision.report cmp true tests url, .autoconsentDone cmp url]
  | tested (place cmp url name : String) (value : Bool) (address : String) :
      Passed [.init place, .optOutResult cmp true true url, .autoconsentDone cmp url,
        .selfTestResult name value address]

theorem Passed.part {whole part : List Outbound} (passed : Passed whole) (begun : part <+: whole) : Passed part := by
  cases passed with
  | none =>
      obtain rfl := List.prefix_nil.mp begun
      exact .none
  | announced place =>
      simp only [List.prefix_cons_iff, List.prefix_nil] at begun
      obtain rfl | ⟨_, rfl, rfl⟩ := begun
      · exact .none
      · exact .announced place
  | decided place decision cmp result tests url =>
      simp only [List.prefix_cons_iff, List.prefix_nil] at begun
      obtain rfl | ⟨_, rfl, rfl | ⟨_, rfl, rfl⟩⟩ := begun
      · exact .none
      · exact .announced place
      · exact .decided place decision cmp result tests url
  | completed place decision cmp tests url =>
      simp only [List.prefix_cons_iff, List.prefix_nil] at begun
      obtain rfl | ⟨_, rfl, rfl | ⟨_, rfl, rfl | ⟨_, rfl, rfl⟩⟩⟩ := begun
      · exact .none
      · exact .announced place
      · exact .decided place decision cmp true tests url
      · exact .completed place decision cmp tests url
  | tested place cmp url name value address =>
      simp only [List.prefix_cons_iff, List.prefix_nil] at begun
      obtain rfl | ⟨_, rfl, rfl | ⟨_, rfl, rfl | ⟨_, rfl, rfl | ⟨_, rfl, rfl⟩⟩⟩⟩ := begun
      · exact .none
      · exact .announced place
      · exact .decided place .optOut cmp true true url
      · exact .completed place .optOut cmp true url
      · exact .tested place cmp url name value address

/-- By the milestones that were heard, a self test is due when the page is complete. -/
def awaitsTest : List Outbound → Bool
  | [_, .optOutResult _ true true _] => true
  | _ => false

/-- By the milestones that were heard, a job has begun. -/
def Job.begun : Job → List Outbound → Bool
  | .announce, _ => true
  | .start, heard => !heard.isEmpty
  | .test, _ :: .optOutResult _ true true _ :: .autoconsentDone _ _ :: _ => true
  | .test, _ => false

/-- What a start tells comes after the announcement. -/
theorem passed_start (place : String) {whole part : List Cue} (performance : Performance whole)
    (begun : part <+: whole) : Passed (.init place :: (marks part).filterMap Mark.message?) := by
  have within : .init place :: (marks part).filterMap Mark.message? <+:
      .init place :: (marks whole).filterMap Mark.message? :=
    List.cons_prefix_cons.mpr ⟨rfl, (marks_part begun).filterMap _⟩
  rcases performance.marks_cases with none | ⟨decision, url, told⟩ | ⟨decision, handler, result, tests, url, told⟩
  · rw [none] at within
    exact (Passed.announced place).part within
  · rw [told] at within
    exact (Passed.decided place decision Engine.nobody false false url).part within
  · rcases told with told | ⟨rfl, told⟩
    · rw [told] at within
      exact (Passed.decided place decision handler.name result tests url).part within
    · rw [told] at within
      exact (Passed.completed place decision handler.name tests url).part within

theorem init_last {whole part : List Cue} {place : String} (script : Job.announce.Script whole)
    (begun : part <+: whole) (announced : .said (.init place) ∈ marks part) : marks part = [.said (.init place)] := by
  obtain ⟨url, rfl⟩ := script
  rcases List.prefix_cons_iff.mp begun with none | ⟨rest, is, none⟩
  · rw [none] at announced
    cases announced
  · obtain rfl := List.prefix_nil.mp none
    rw [is] at announced ⊢
    simpa [eq_comm] using announced

theorem Job.start_begun {passed : List Outbound} (begun : Job.test.begun passed = true) :
    Job.start.begun passed = true := by
  cases passed with
  | nil => cases begun
  | cons first rest => rfl

/-! ## What is kept -/

/-- The marks of all jobs.  Each of them leaves its last one before the next job begins. -/
def marked (story : Job → List Exchange) : List Mark :=
  marks (outline (story .announce)) ++ (marks (outline (story .start)) ++ marks (outline (story .test)))

/-- What is found true between two steps of a service, by the milestones that were heard so far. -/
structure Attends (timings : Timings) (config : EngineConfig) (rules : RuleSet) (world : World)
    (passed : List Outbound) (host : Host) (story : Job → List Exchange) : Prop where
  settings : host.timings = timings ∧ host.config = config ∧ host.rules = rules
  staffed : ∃ duties, Staffed timings config rules (fun job => job.begun passed = true) story host.tasks duties
  pending : host.selfTestPending = awaitsTest passed
  announced : Job.start.begun passed = true → ∃ place, .said (.init place) ∈ marks (outline (story .announce))
  completed : Job.test.begun passed = true → ∃ name url cmp place,
    .said (.optOutResult name true true url) ∈ marks (outline (story .start)) ∧
      .said (.autoconsentDone cmp place) ∈ marks (outline (story .start))
  journal : ∃ entries, host.world.journal = world.journal ++ entries ∧
    entries.filter (fun entry => entry.call.routine.acts) = (marked story).filterMap Mark.entry?
  sent : milestones host.world.sent = (marked story).filterMap Mark.message?
  bears : host.world.ledger.Bears (outline (story .start))
  chosen : ∀ found, .chose found ∈ outline (story .test) →
    ∃ handler, found = some handler ∧ host.world.engine.found = some handler

section Attends

variable {timings : Timings} {config : EngineConfig} {rules : RuleSet} {world : World} {passed : List Outbound}
  {host : Host} {story : Job → List Exchange}

theorem attends_start (unsent : world.sent = []) (timings : Timings) (config : EngineConfig) (rules : RuleSet) :
    Attends timings config rules world [] (Host.start world timings config rules) fun _ => [] where
  settings := ⟨rfl, rfl, rfl⟩
  staffed := by
    refine ⟨[(⟨Engine.announce, some world.order⟩, some .announce)], rfl, List.nodup_singleton _, ?_, ?_, ?_, ?_⟩
    · intro duty member job is
      obtain rfl := List.mem_singleton.mp member
      obtain rfl := Option.some.inj is
      exact ⟨rfl, .refl _⟩
    · intro duty member none
      obtain rfl := List.mem_singleton.mp member
      cases none
    · intro job begun
      cases job with
      | announce => exact .inl ⟨_, List.mem_singleton_self _, rfl⟩
      | start | test => cases begun
    · exact fun _ _ => rfl
  pending := rfl
  announced := nofun
  completed := nofun
  journal := ⟨[], (List.append_nil _).symm, rfl⟩
  sent := by
    change milestones world.sent = []
    rw [unsent]
    rfl
  bears := by
    refine ⟨fun _ => nofun, fun slot memory recalls => ?_⟩
    obtain ⟨before, after, split, -⟩ := recalls
    simp at split
  chosen := fun _ => nofun

namespace Attends

variable (attends : Attends timings config rules world passed host story)
include attends

theorem recited (job : Job) : ∃ whole, job.Script whole ∧ outline (story job) <+: whole ∧
    (OnlyEvaluates timings host.tasks → job.begun passed = true → outline (story job) = whole) := by
  obtain ⟨duties, staffed⟩ := attends.staffed
  exact staffed.recited job

theorem unbegun {job : Job} (begun : ¬job.begun passed = true) : story job = [] := by
  obtain ⟨duties, staffed⟩ := attends.staffed
  exact staffed.unbegun job begun

theorem announcement (begun : Job.start.begun passed = true) :
    ∃ place, marks (outline (story .announce)) = [.said (.init place)] := by
  obtain ⟨place, announced⟩ := attends.announced begun
  obtain ⟨whole, script, part, -⟩ := attends.recited .announce
  exact ⟨place, init_last script part announced⟩

/-- The handler that was found has opted out where a self test has begun, and is still the one. -/
theorem refused (begun : Job.test.begun passed = true) : ∃ (handler : Handler) (url : String),
    host.world.engine.found = some handler ∧ Finishes handler (outline (story .start)) ∧
      Carried handler true (Decision.optOut.marks handler true true url ++
        [.said (.autoconsentDone handler.name url)]) (outline (story .start)) := by
  obtain ⟨name, url, cmp, place, report, done⟩ := attends.completed begun
  obtain ⟨whole, performance, part, -⟩ := attends.recited .start
  obtain ⟨handler, url, finishes, carried⟩ := performance.refused part report done
  exact ⟨handler, url, attends.bears.found handler carried.chose, finishes, carried⟩

/-- What a job tells that has begun comes last of all. -/
theorem order {job : Job} {told : List Exchange} {flow : Flow Unit}
    (steps : Steps (job.flow timings config rules) (story job ++ told) flow) :
    marked (Function.update story job (story job ++ told)) = marked story ++ marks (outline told) := by
  have more : ∀ one two : List Exchange, marks (outline (one ++ two)) = marks (outline one) ++ marks (outline two) :=
    fun one two => by rw [outline_append, marks_append]
  -- Where the next job has begun, nothing is left to be told.
  have silent : ∀ {left : List Mark}, marks (outline (story job)) = left → marks (outline (story job ++ told)) = left →
      marks (outline told) = [] := by
    intro left before after
    rw [more, before] at after
    exact List.append_right_eq_self.mp after
  obtain ⟨whole, script, part, -⟩ := attends.recited job
  obtain ⟨grown, larger, within⟩ := job.recited steps
  cases job with
  | announce =>
      by_cases next : Job.start.begun passed = true
      · obtain ⟨place, announced⟩ := attends.announced next
        have none := silent (init_last script part announced)
          (init_last larger within (more _ _ ▸ List.mem_append_left _ announced))
        simp [marked, more, none]
      · have last : ¬Job.test.begun passed = true := fun begun => next (Job.start_begun begun)
        simp [marked, more, attends.unbegun next, attends.unbegun last]
  | start =>
      by_cases next : Job.test.begun passed = true
      · obtain ⟨name, url, cmp, place, report, done⟩ := attends.completed next
        obtain ⟨handler, url, -, carried⟩ := Performance.refused script part report done
        obtain ⟨other, place, -, still⟩ := Performance.refused larger within (more _ _ ▸ List.mem_append_left _ report)
          (more _ _ ▸ List.mem_append_left _ done)
        have none : marks (outline told) = [] := by
          have sizes := congrArg List.length still.told
          rw [more, carried.told] at sizes
          simpa [Decision.marks] using sizes
        simp [marked, more, none]
      · simp [marked, more, attends.unbegun next]
  | test => simp [marked, more]

theorem inOrder : Passed ((marked story).filterMap Mark.message?) := by
  by_cases started : Job.start.begun passed = true
  case neg =>
    have last : ¬Job.test.begun passed = true := fun begun => started (Job.start_begun begun)
    obtain ⟨whole, ⟨place, rfl⟩, part, -⟩ := attends.recited .announce
    refine (Passed.announced place).part ?_
    have only := (marks_part part).filterMap Mark.message?
    simpa [marked, attends.unbegun started, attends.unbegun last, List.filterMap_cons, Mark.message?] using only
  obtain ⟨place, first⟩ := attends.announcement started
  by_cases tested : Job.test.begun passed = true
  case neg =>
    obtain ⟨whole, performance, part, -⟩ := attends.recited .start
    have passes := passed_start place performance part
    rw [marked, first, attends.unbegun tested, outline_nil, marks_nil, List.append_nil]
    exact passes
  obtain ⟨handler, url, -, -, carried⟩ := attends.refused tested
  obtain ⟨whole, ⟨found, rest, value, address, rfl, -, told⟩, part, -⟩ := attends.recited .test
  refine (Passed.tested place handler.name url (Engine.reportedName found) value address).part ?_
  have only : (marks (.chose found :: rest)).filterMap Mark.message? =
      [.selfTestResult (Engine.reportedName found) value address] := by
    rw [marks_chose, told]
    cases found <;> rfl
  have last := (marks_part part).filterMap Mark.message?
  rw [only] at last
  simpa [marked, first, carried.told, Decision.marks, Decision.report, List.filterMap_cons, Mark.message?] using last

/-! ## What the host hears -/

/-- The host has heard something and may have one more thing done. -/
theorem moveOn {now : List Outbound} {next : Host} (ledger : next.world.ledger = host.world.ledger)
    (settings : next.timings = timings ∧ next.config = config ∧ next.rules = rules)
    (staffed : ∃ duties, Staffed timings config rules (fun job => job.begun now = true) story next.tasks duties)
    (pending : next.selfTestPending = awaitsTest now)
    (announced : Job.start.begun now = true → ∃ place, .said (.init place) ∈ marks (outline (story .announce)))
    (completed : Job.test.begun now = true → ∃ name url cmp place,
      .said (.optOutResult name true true url) ∈ marks (outline (story .start)) ∧
        .said (.autoconsentDone cmp place) ∈ marks (outline (story .start))) :
    Attends timings config rules world now next story := by
  have journal : next.world.journal = host.world.journal := congrArg Ledger.journal ledger
  have sent : next.world.sent = host.world.sent := congrArg Ledger.sent ledger
  have engine : next.world.engine = host.world.engine := congrArg Ledger.engine ledger
  exact ⟨settings, staffed, pending, announced, completed, journal ▸ attends.journal, sent ▸ attends.sent,
    ledger ▸ attends.bears, engine ▸ attends.chosen⟩

/-- The host has heard something and no job begins. -/
theorem still {now : List Outbound} {next : Host} (ledger : next.world.ledger = host.world.ledger)
    (settings : next.timings = host.timings ∧ next.config = host.config ∧ next.rules = host.rules)
    (tasks : next.tasks = host.tasks) (pending : next.selfTestPending = awaitsTest now)
    (begun : ∀ job : Job, job.begun now = job.begun passed) :
    Attends timings config rules world now next story := by
  obtain ⟨sameTimings, sameConfig, sameRules⟩ := settings
  refine attends.moveOn ledger ?_ ?_ pending ?_ ?_
  · rw [sameTimings, sameConfig, sameRules]
    exact attends.settings
  · simp only [begun, tasks]
    exact attends.staffed
  · rw [begun]
    exact attends.announced
  · rw [begun]
    exact attends.completed

omit attends

theorem respond_init {place : String} (attends : Attends timings config rules world [] host story)
    (said : .said (.init place) ∈ marks (outline (story .announce))) :
    Attends timings config rules world [.init place] (host.respond (.init place)) story := by
  obtain ⟨duties, staffed⟩ := attends.staffed
  obtain ⟨rfl, rfl, rfl⟩ := attends.settings
  have fresh : ¬Job.start.begun [] = true := nofun
  refine attends.moveOn rfl ⟨rfl, rfl, rfl⟩ ⟨_, staffed.begin fresh rfl fun other => ?_⟩ attends.pending
    (fun _ => ⟨place, said⟩) nofun
  cases other <;> simp [Job.begun]

theorem respond_report {place cmp url : String} {decision : Decision} {result tests : Bool}
    (attends : Attends timings config rules world [.init place] host story) :
    Attends timings config rules world [.init place, decision.report cmp result tests url]
      (host.respond (decision.report cmp result tests url)) story := by
  have begun : ∀ job : Job, job.begun [.init place, decision.report cmp result tests url] =
      job.begun [.init place] := by
    intro job
    cases job <;> cases decision <;> cases result <;> cases tests <;> rfl
  have none : host.selfTestPending = false := attends.pending
  have pending : (host.respond (decision.report cmp result tests url)).selfTestPending =
      awaitsTest [.init place, decision.report cmp result tests url] := by
    cases decision <;> cases result <;> cases tests <;> simp [Decision.report, Host.respond, awaitsTest, none]
  cases decision <;> cases result <;> cases tests <;>
    exact attends.still rfl ⟨rfl, rfl, rfl⟩ rfl pending begun

/-- The engine tests itself where a refusal that asks for it has completed the page. -/
theorem respond_refused {place cmp url : String}
    (attends : Attends timings config rules world [.init place, .optOutResult cmp true true url] host story)
    (within : [.init place, .optOutResult cmp true true url, .autoconsentDone cmp url] <+:
      (marked story).filterMap Mark.message?) :
    Attends timings config rules world [.init place, .optOutResult cmp true true url, .autoconsentDone cmp url]
      (host.respond (.autoconsentDone cmp url)) story := by
  have responds : host.respond (.autoconsentDone cmp url) =
      { host with selfTestPending := false }.addTask (Engine.receive host.timings .selfTest) :=
    if_pos attends.pending
  have fresh : ¬Job.test.begun [.init place, .optOutResult cmp true true url] = true := nofun
  obtain ⟨address, first⟩ := attends.announcement rfl
  have rest : [.optOutResult cmp true true url, .autoconsentDone cmp url] <+:
      (marks (outline (story .start))).filterMap Mark.message? := by
    rw [marked, first, attends.unbegun fresh, outline_nil, marks_nil, List.append_nil] at within
    exact (List.cons_prefix_cons.mp within).2
  have said : ∀ message ∈ [.optOutResult cmp true true url, .autoconsentDone cmp url],
      .said message ∈ marks (outline (story .start)) := fun message member =>
    Mark.mem_messages.mp (rest.subset member)
  obtain ⟨duties, staffed⟩ := attends.staffed
  obtain ⟨rfl, rfl, rfl⟩ := attends.settings
  rw [responds]
  refine attends.moveOn rfl ⟨rfl, rfl, rfl⟩ ⟨_, staffed.begin fresh rfl fun other => ?_⟩ rfl
    (fun _ => attends.announced rfl) fun _ => ⟨cmp, url, cmp, url, said _ (by simp), said _ (by simp)⟩
  cases other <;> simp [Job.begun]

/-- Otherwise it does not. -/
theorem respond_done {cmp url : String} {now : List Outbound}
    (attends : Attends timings config rules world passed host story) (unscheduled : awaitsTest passed = false)
    (never : awaitsTest now = false) (begun : ∀ job : Job, job.begun now = job.begun passed) :
    Attends timings config rules world now (host.respond (.autoconsentDone cmp url)) story := by
  have pending : host.selfTestPending = false := attends.pending.trans unscheduled
  have responds : host.respond (.autoconsentDone cmp url) = host := if_neg (by simp [pending])
  rw [responds]
  exact attends.still rfl ⟨rfl, rfl, rfl⟩ rfl (pending.trans never.symm) begun

/-- What is no milestone begins no job. -/
theorem respond_other {message : Outbound} (attends : Attends timings config rules world passed host story)
    (other : ¬message.isMilestone = true) :
    Attends timings config rules world passed (host.respond message) story := by
  obtain ⟨duties, staffed⟩ := attends.staffed
  cases message with
  | evalRequest id code =>
      have bystander := staffed.bystander (bystander_evaluate host.timings id code) (some host.world.order)
      exact attends.moveOn rfl attends.settings ⟨_, bystander⟩ attends.pending attends.announced attends.completed
  | init _ | optOutResult | optInResult | selfTestResult | autoconsentDone => exact absurd rfl other
  | _ => exact attends

theorem hear {message : Outbound} (attends : Attends timings config rules world passed host story)
    (within : passed ++ milestones [message] <+: milestones host.world.sent) :
    Attends timings config rules world (passed ++ milestones [message]) (host.handle message) story := by
  obtain ⟨emitted, handles⟩ : ∃ emitted, host.handle message =
      { host with handled := host.handled + 1, emitted := emitted }.respond message := by
    by_cases passedOn : isEmitted message = true
    · exact ⟨host.emitted ++ [(host.world.clock, message)], by simp [Host.handle, passedOn]⟩
    · exact ⟨host.emitted, by simp [Host.handle, passedOn]⟩
  rw [attends.sent] at within
  replace attends : Attends timings config rules world passed
      { host with handled := host.handled + 1, emitted := emitted } story :=
    attends.still rfl ⟨rfl, rfl, rfl⟩ rfl attends.pending fun _ => rfl
  rw [handles]
  by_cases milestone : message.isMilestone = true
  case neg =>
    have same : passed ++ milestones [message] = passed := by simp [milestones, milestone]
    rw [same]
    exact attends.respond_other milestone
  have whole : passed ++ milestones [message] = passed ++ [message] := by simp [milestones, milestone]
  rw [whole] at within ⊢
  have inOrder := attends.inOrder.part within
  -- What was heard before follows from the order of milestones.
  generalize is : passed ++ [message] = now at inOrder within
  have last : ∀ {before : List Outbound} {final : Outbound}, passed ++ [message] = before ++ [final] →
      passed = before ∧ message = final := fun same =>
    (List.append_inj' same rfl).imp_right fun ended => (List.cons.inj ended).1
  cases inOrder with
  | none => simp at is
  | announced place =>
      obtain ⟨rfl, rfl⟩ := last (show _ = [] ++ [_] from is)
      have first := within.subset List.mem_cons_self
      have unstarted : ¬Job.start.begun [] = true := nofun
      have untested : ¬Job.test.begun [] = true := nofun
      rw [marked, attends.unbegun unstarted, attends.unbegun untested] at first
      exact attends.respond_init (Mark.mem_messages.mp (by simpa using first))
  | decided place decision cmp result tests url =>
      obtain ⟨rfl, rfl⟩ := last (show _ = [_] ++ [_] from is)
      exact attends.respond_report
  | completed place decision cmp tests url =>
      obtain ⟨rfl, rfl⟩ := last (show _ = [_, _] ++ [_] from is)
      cases decision with
      | optIn => exact attends.respond_done rfl rfl fun job => by cases job <;> rfl
      | optOut =>
          cases tests with
          | true => exact attends.respond_refused within
          | false => exact attends.respond_done rfl rfl fun job => by cases job <;> rfl
  | tested place cmp url name value address =>
      obtain ⟨rfl, rfl⟩ := last (show _ = [_, _, _] ++ [_] from is)
      exact attends.still rfl ⟨rfl, rfl, rfl⟩ rfl attends.pending fun job => by cases job <;> rfl

/-! ## What tasks do -/

theorem follow {after : World} {tasks : List Task} {told : List Exchange} {grown : Job → List Exchange}
    (attends : Attends timings config rules world passed host story)
    (follows : host.world.ledger.Follows told after.ledger)
    (staffed : ∃ duties, Staffed timings config rules (fun job => job.begun passed = true) grown tasks duties)
    (grows : ∀ job, marks (outline (story job)) ⊆ marks (outline (grown job)))
    (order : marked grown = marked story ++ marks (outline told))
    (bears : after.ledger.Bears (outline (grown .start)))
    (chosen : ∀ found, .chose found ∈ outline (grown .test) →
      ∃ handler, found = some handler ∧ after.engine.found = some handler) :
    Attends timings config rules world passed { host with world := after, tasks := tasks } grown := by
  obtain ⟨entries, journal, acts⟩ := attends.journal
  refine ⟨attends.settings, staffed, attends.pending, fun begun => ?_, fun begun => ?_, ?_, ?_, bears, chosen⟩
  · obtain ⟨place, announced⟩ := attends.announced begun
    exact ⟨place, grows _ announced⟩
  · obtain ⟨name, url, cmp, place, report, done⟩ := attends.completed begun
    exact ⟨name, url, cmp, place, grows _ report, grows _ done⟩
  · have whole : after.journal = host.world.journal ++ noted told := follows.journal
    refine ⟨entries ++ noted told, ?_, ?_⟩
    · rw [whole, journal, List.append_assoc]
    · rw [List.filter_append, acts, noted_acts, order, List.filterMap_append]
  · have whole : milestones after.sent = milestones host.world.sent ++ _ := follows.milestones
    rw [whole, attends.sent, order, List.filterMap_append]

theorem work {after : World} {tasks : List Task} {told : List Exchange} {job : Job} {flow : Flow Unit}
    (attends : Attends timings config rules world passed host story) (begun : job.begun passed = true)
    (onward : Steps (job.flow timings config rules) (story job ++ told) flow)
    (follows : host.world.ledger.Follows told after.ledger)
    (staffed : ∃ duties, Staffed timings config rules (fun job => job.begun passed = true)
      (Function.update story job (story job ++ told)) tasks duties) :
    Attends timings config rules world passed { host with world := after, tasks := tasks }
      (Function.update story job (story job ++ told)) := by
  have keeps : Allowed Request.KeepsFound told := fun exchange member =>
    (onward.confined job.keepsFound).2 exchange (List.mem_append_right _ member)
  refine attends.follow follows staffed (fun other => ?_) (attends.order onward) ?_ fun found member => ?_
  · by_cases same : other = job
    · subst same
      rw [Function.update_self, outline_append, marks_append]
      exact List.subset_append_left _ _
    · rw [Function.update_of_ne same]
      exact List.Subset.refl _
  · by_cases same : job = .start
    · subst same
      rw [Function.update_self, outline_append]
      exact attends.bears.goOn keeps follows
    · rw [Function.update_of_ne (Ne.symm same)]
      refine attends.bears.aside keeps (fun learned => job.unlearned same onward ?_) follows
      rw [outline_append]
      exact List.mem_append_right _ learned
  · have old : .chose found ∈ outline (story .test) →
        ∃ handler, found = some handler ∧ after.engine.found = some handler := by
      intro member
      obtain ⟨handler, is, held⟩ := attends.chosen found member
      exact ⟨handler, is, Ledger.Follows.found keeps held follows⟩
    by_cases same : job = .test
    · subst same
      rw [Function.update_self, outline_append] at member
      rcases List.mem_append.mp member with earlier | later
      · exact old earlier
      · obtain ⟨handler, -, held, -⟩ := attends.refused begun
        exact ⟨handler, Ledger.Follows.chose keeps held follows later, Ledger.Follows.found keeps held follows⟩
    · rw [Function.update_of_ne (Ne.symm same)] at member
      exact old member

/-- A task has gone on that is at no job. -/
theorem standBy {after : World} {tasks : List Task} {told : List Exchange}
    (attends : Attends timings config rules world passed host story) (allowed : Allowed IsBystander told)
    (follows : host.world.ledger.Follows told after.ledger)
    (staffed : ∃ duties, Staffed timings config rules (fun job => job.begun passed = true) story tasks duties) :
    Attends timings config rules world passed { host with world := after, tasks := tasks } story := by
  have silent : outline told = [] := Flow.cues_silent fun exchange member => (allowed exchange member).1
  have keeps : Allowed Request.KeepsFound told := fun exchange member => (allowed exchange member).2
  refine attends.follow follows staffed (fun _ => List.Subset.refl _) ?_ ?_ fun found member => ?_
  · rw [silent, marks_nil, List.append_nil]
  · exact attends.bears.aside keeps (by simp [silent]) follows
  · obtain ⟨handler, is, held⟩ := attends.chosen found member
    exact ⟨handler, is, Ledger.Follows.found keeps held follows⟩

end Attends

end Attends

/-- Whatever course a service takes, the host attends to its engine. -/
theorem Course.attends {timings : Timings} {config : EngineConfig} {rules : RuleSet} {world : World}
    (unsent : world.sent = []) {history : List Happening} {host : Host}
    (course : Course (Host.start world timings config rules) history host) :
    ∃ story, Attends timings config rules world (milestones (heard history)) host story := by
  induction course with
  | here => exact ⟨_, attends_start unsent timings config rules⟩
  | @step history more host next course happens ih =>
      obtain ⟨story, attends⟩ := ih
      have waiting := (course.step happens).serving.waiting
      rw [heard_append] at waiting ⊢
      cases happens with
      | @hear message waits =>
          have within := waiting.filter Outbound.isMilestone
          rw [(host.handle_sent message).1, List.filter_append] at within
          rw [milestones, List.filter_append]
          exact ⟨story, attends.hear within⟩
      | @goOn _ _ _ _ after _ tasks steps follows leaves =>
          rw [heard_happenings, List.append_nil]
          obtain ⟨duties, staffed⟩ := attends.staffed
          rw [tasks] at staffed
          rcases staffed.goOn host after steps with ⟨job, duties, begun, onward, still⟩ | ⟨allowed, duties, still⟩
          · exact ⟨_, attends.work begun onward follows ⟨duties, still⟩⟩
          · exact ⟨story, attends.standBy allowed follows ⟨duties, still⟩⟩
      | aside count ledger bridge =>
          refine ⟨story, ?_⟩
          change Attends timings config rules world (milestones (heard history ++ [])) _ story
          rw [List.append_nil]
          exact attends.still ledger ⟨rfl, rfl, rfl⟩ rfl attends.pending fun _ => rfl

end ConsentBanner.Host

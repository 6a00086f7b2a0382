import ConsentBanner.Proofs.Host.Milestones

/-!
# Scheduled self tests

The host takes note of a refusal that asks for a self test, and has the engine test itself once it hears that
the page is complete.  Main statement: `Host.tests_follow`, who is tested whatever course the service takes, and
what is then passed on.
-/

set_option autoImplicit false

namespace ConsentBanner.Host

/-- The handler that was found is due for its self test: it has opted out since the host began, it can test
itself, and its success does not only lead to another dialog. -/
structure IsDue (world : World) (entries : List JournalEntry) (handler : Handler) : Prop where
  found : world.engine.found = some handler
  refused : ⟨handler.call .optOut, .came true⟩ ∈ entries
  tests : handler.traits.hasSelfTest (world.memory handler.slot) = true
  final : handler.traits.isIntermediate (world.memory handler.slot) = false

def selfTests (entries : List JournalEntry) : List JournalEntry :=
  entries.filter fun entry => entry.call.routine = .selfTest

/-- The messages about decisions and self tests. -/
def verdicts (messages : List Outbound) : List Outbound := messages.filter Outbound.isVerdict

/-- Nobody was reported to be tested. -/
def Untested (messages : List Outbound) : Prop :=
  ∀ cmp result url, .selfTestResult cmp result url ∉ messages

def testEntries (handler : Handler) (value : Bool) : List JournalEntry :=
  [⟨handler.call .selfTest, .begun⟩, ⟨handler.call .selfTest, .came value⟩]

/-- The messages where a self test follows a decision. -/
def testVerdicts (handler : Handler) (value : Bool) (url address : String) : List Outbound :=
  [.optOutResult handler.name true true url, .autoconsentDone handler.name url,
    .selfTestResult handler.name value address]

def testMarks (handler : Handler) (value : Bool) (address : String) : List Mark :=
  [.did ⟨handler.call .selfTest, .begun⟩, .did ⟨handler.call .selfTest, .came value⟩,
    .said (.selfTestResult handler.name value address)]

/-- No message waits, and nothing is left to do but to have page script evaluated. -/
structure Rests (host : Host) : Prop where
  drained : host.message? = none
  idle : OnlyEvaluates host.timings host.tasks

theorem verdicts_milestones (messages : List Outbound) : verdicts messages = verdicts (milestones messages) := by
  rw [verdicts, verdicts, List.filter_filter]
  refine List.filter_congr fun message _ => ?_
  cases message <;> rfl

theorem verdicts_emitted (messages : List Outbound) : verdicts (messages.filter isEmitted) = verdicts messages := by
  rw [verdicts, verdicts, List.filter_filter]
  refine List.filter_congr fun message _ => ?_
  cases message <;> rfl

namespace Attends

variable {timings : Timings} {config : EngineConfig} {rules : RuleSet} {world : World} {passed : List Outbound}
  {host : Host} {story : Job → List Exchange} (attends : Attends timings config rules world passed host story)
include attends

/-- Only a self test leaves the marks of one, and it leaves no others. -/
theorem isTest (job : Job) : ∀ mark ∈ marks (outline (story job)), mark.isTest = decide (job = .test) := by
  obtain ⟨whole, script, part, -⟩ := attends.recited job
  intro mark member
  have within : mark ∈ marks whole := (marks_part part).subset member
  cases job with
  | announce =>
      obtain ⟨url, rfl⟩ := script
      obtain rfl := List.mem_singleton.mp within
      rfl
  | start => exact Performance.untested script mark within
  | test =>
      obtain ⟨found, rest, value, url, rfl, -, told⟩ := script
      have all : ∀ mark ∈ marks (.chose found :: rest), mark.isTest = true := by
        rw [marks_chose, told]
        cases found <;> simp [Mark.isTest, Handler.call]
      exact all mark within

theorem tested : (marked story).filter Mark.isTest = marks (outline (story .test)) := by
  have none : ∀ {job : Job}, job ≠ .test → (marks (outline (story job))).filter Mark.isTest = [] := fun other =>
    List.filter_eq_nil_iff.mpr fun mark member => by simp [attends.isTest _ mark member, other]
  have all : (marks (outline (story .test))).filter Mark.isTest = marks (outline (story .test)) :=
    List.filter_eq_self.mpr fun mark member => attends.isTest .test mark member
  rw [marked, List.filter_append, List.filter_append, none (by decide), none (by decide), all, List.nil_append,
    List.nil_append]

/-- The journal says of self tests what the job has told. -/
theorem selfTests {entries : List JournalEntry} (journal : host.world.journal = world.journal ++ entries) :
    Host.selfTests entries = (marks (outline (story .test))).filterMap Mark.entry? := by
  obtain ⟨others, is, acts⟩ := attends.journal
  obtain rfl := List.append_cancel_left (is.symm.trans journal)
  have narrow : Host.selfTests others = Host.selfTests (others.filter fun entry => entry.call.routine.acts) := by
    rw [Host.selfTests, Host.selfTests, List.filter_filter]
    refine List.filter_congr fun entry _ => ?_
    cases entry.call.routine <;> rfl
  rw [← attends.tested, List.filterMap_filter, narrow, acts, Host.selfTests, List.filter_filterMap]
  refine List.filterMap_congr fun mark _ => ?_
  cases mark with
  | did entry => simp [Mark.entry?, Mark.isTest, Option.filter]
  | said message => cases message <;> rfl

theorem untested (nothing : story .test = []) : Untested host.world.sent := by
  intro cmp result url member
  have milestone : .selfTestResult cmp result url ∈ (marked story).filterMap Mark.message? := by
    rw [← attends.sent]
    exact List.mem_filter.mpr ⟨member, rfl⟩
  have within : .said (.selfTestResult cmp result url) ∈ (marked story).filter Mark.isTest :=
    List.mem_filter.mpr ⟨Mark.mem_messages.mp milestone, rfl⟩
  rw [attends.tested, nothing] at within
  cases within

theorem entered {entries : List JournalEntry} (journal : host.world.journal = world.journal ++ entries)
    {entry : JournalEntry} (acts : entry.call.routine.acts = true) :
    entry ∈ entries ↔ .did entry ∈ marked story := by
  obtain ⟨others, is, whole⟩ := attends.journal
  obtain rfl := List.append_cancel_left (is.symm.trans journal)
  rw [← Mark.mem_entries, ← whole, List.mem_filter, and_iff_left acts]

theorem due {entries : List JournalEntry} (journal : host.world.journal = world.journal ++ entries)
    {handler : Handler} {left : List Mark} (found : host.world.engine.found = some handler)
    (finishes : Finishes handler (outline (story .start))) (carried : Carried handler true left (outline (story .start)))
    (refused : .did ⟨handler.call .optOut, .came true⟩ ∈ left) : IsDue host.world entries handler := by
  obtain ⟨memory, recalls, final⟩ := finishes
  obtain ⟨earlier, recalled, tests⟩ := carried.recalls
  have lately : host.world.memory handler.slot = memory := attends.bears.memory _ _ recalls
  have before : host.world.memory handler.slot = earlier := attends.bears.memory _ _ recalled
  refine ⟨found, (attends.entered journal rfl).mpr ?_, before ▸ tests, lately ▸ final⟩
  rw [marked, carried.told]
  simp [refused]

theorem tries {handler : Handler} (found : host.world.engine.found = some handler)
    (begun : Job.test.begun passed = true) : ∃ value address,
      marks (outline (story .test)) <+: testMarks handler value address ∧
        (OnlyEvaluates timings host.tasks → marks (outline (story .test)) = testMarks handler value address) := by
  obtain ⟨whole, ⟨known, rest, value, address, isWhole, -, told⟩, part, complete⟩ := attends.recited .test
  -- If nothing is told yet of the test, it does not matter who is looked up.
  have same : outline (story .test) = [] ∨ marks whole = testMarks handler value address := by
    subst isWhole
    rcases List.prefix_cons_iff.mp part with none | ⟨later, is, -⟩
    · exact .inl none
    · obtain ⟨other, rfl, held⟩ := attends.chosen known (is ▸ List.mem_cons_self)
      obtain rfl := Option.some.inj (held.symm.trans found)
      exact .inr told
  refine ⟨value, address, ?_, fun only => ?_⟩
  · rcases same with none | is
    · rw [none]
      exact List.nil_prefix
    · exact is ▸ marks_part part
  · have is := complete only begun
    rcases same with none | same
    · rw [none, isWhole] at is
      cases is
    · exact (congrArg marks is).trans same

theorem trial {entries : List JournalEntry} (journal : host.world.journal = world.journal ++ entries)
    (begun : Job.test.begun passed = true) : ∃ (handler : Handler) (value : Bool) (url address : String),
      IsDue host.world entries handler ∧ marks (outline (story .test)) <+: testMarks handler value address ∧
        verdicts host.world.sent = [.optOutResult handler.name true true url, .autoconsentDone handler.name url] ++
          (marks (outline (story .test))).filterMap Mark.message? ∧
        (OnlyEvaluates timings host.tasks → marks (outline (story .test)) = testMarks handler value address) := by
  obtain ⟨handler, url, found, finishes, carried⟩ := attends.refused begun
  obtain ⟨value, address, begins, ends⟩ := attends.tries found begun
  have isDue := attends.due journal found finishes carried (by simp [Engine.Decision.marks, Engine.Decision.routine])
  refine ⟨handler, value, url, address, isDue, begins, ?_, ends⟩
  obtain ⟨place, first⟩ := attends.announcement (Job.start_begun begun)
  have all : verdicts ((marks (outline (story .test))).filterMap Mark.message?) =
      (marks (outline (story .test))).filterMap Mark.message? := by
    refine List.filter_eq_self.mpr fun message member => ?_
    obtain rfl := List.mem_singleton.mp ((begins.filterMap Mark.message?).subset member)
    rfl
  rw [verdicts_milestones, attends.sent, marked, first, carried.told]
  simpa [Engine.Decision.marks, Engine.Decision.report, List.filterMap_cons, Mark.message?, verdicts,
    Outbound.isVerdict] using all

/-- When nothing is left to do and to hear, whoever is due for a self test has been tested. -/
theorem scheduled {entries : List JournalEntry} (journal : host.world.journal = world.journal ++ entries)
    {handler : Handler} (due : IsDue host.world entries handler) (only : OnlyEvaluates timings host.tasks)
    (heard : passed = milestones host.world.sent) : Job.test.begun passed = true := by
  by_contra untested
  have member := (attends.entered journal rfl).mp due.refused
  rw [marked, attends.unbegun untested, outline_nil, marks_nil, List.append_nil] at member
  have refused : .did ⟨handler.call .optOut, .came true⟩ ∈ marks (outline (story .start)) := by
    refine (List.mem_append.mp member).resolve_left fun early => ?_
    obtain ⟨whole, ⟨url, rfl⟩, part, -⟩ := attends.recited .announce
    have within := (marks_part part).subset early
    simp at within
  have started : Job.start.begun passed = true := by
    by_contra unstarted
    rw [attends.unbegun unstarted] at refused
    cases refused
  obtain ⟨whole, performance, -, complete⟩ := attends.recited .start
  have performed : Performance (outline (story .start)) := complete only started ▸ performance
  obtain ⟨url, told⟩ := performed.schedules attends.bears due.found refused due.tests due.final
  obtain ⟨place, first⟩ := attends.announcement started
  -- The milestones that were heard say themselves that the test has begun.
  have all := attends.sent
  rw [marked, first, told, attends.unbegun untested] at all
  rw [heard, all] at untested
  exact untested rfl

end Attends

/-- A host that drains its messages takes each of them in hand. -/
theorem drain_handled (host : Host) :
    host.drain.handled = host.handled + (host.world.sent.drop host.handled).length := by
  unfold Host.drain
  generalize host.world.sent.drop host.handled = messages
  induction messages generalizing host with
  | nil => rfl
  | cons message rest ih =>
      rw [List.foldl_cons, ih, (host.handle_sent message).2, List.length_cons]
      omega

theorem Returns.rests {host last : Host} (returns : Returns host last) : Rests last := by
  obtain ⟨-, rfl, still⟩ := returns
  refine ⟨List.getElem?_eq_none ?_, fun task member => ?_⟩
  · rw [drain_handled, drain_sent, List.length_drop]
    omega
  · rw [still] at member
    cases member

/-- At rest, everything was heard. -/
theorem Serving.heard_all {world : World} {history : List Happening} {host : Host}
    (serving : Serving world history host) (rests : Rests host) : heard history = host.world.sent := by
  have all : host.world.sent.length ≤ host.handled := List.getElem?_eq_none_iff.mp rests.drained
  exact serving.waiting.eq_of_length_le (serving.handled ▸ all)

/-- Whoever is due for a self test when the host comes to rest has been tested once, and was reported on once
after the page was said to be complete; nobody else is ever tested.  Whatever course a service takes, what it has
come to by any time is the beginning of that, a host that returns is at rest, and what a host does when it is run
is such a course. -/
theorem tests_follow (timings : Timings) (config : EngineConfig) (rules : RuleSet) (world : World)
    (unsent : world.sent = []) :
    (∀ history host, Course (start world timings config rules) history host →
      ∃ entries, host.world.journal = world.journal ++ entries ∧
        (selfTests entries = [] ∧ Untested host.world.sent ∨
          ∃ handler value url address, IsDue host.world entries handler ∧
            selfTests entries <+: testEntries handler value ∧
            verdicts host.world.sent <+: testVerdicts handler value url address)) ∧
    (∀ history host, Course (start world timings config rules) history host → Rests host →
      ∃ entries, host.world.journal = world.journal ++ entries ∧
        ((∀ handler, ¬IsDue host.world entries handler) ∧ selfTests entries = [] ∧
            Untested (host.emitted.map Prod.snd) ∨
          ∃ handler value url address, IsDue host.world entries handler ∧
            selfTests entries = testEntries handler value ∧
            verdicts (host.emitted.map Prod.snd) = testVerdicts handler value url address)) ∧
    (∀ history host last, Course (start world timings config rules) history host → Returns host last →
      (∃ more, Course (start world timings config rules) (history ++ more) last) ∧ Rests last) ∧
    ∀ prefers fuel agenda, ∃ history, Course (start world timings config rules) history
      ((start world timings config rules).run prefers fuel agenda) := by
  refine ⟨fun history host course => ?_, fun history host course rests => ?_,
    fun history host last course returns => ?_, fun prefers fuel agenda => Course.run prefers fuel agenda .here⟩
  · obtain ⟨story, attends⟩ := course.attends unsent
    obtain ⟨entries, journal, -⟩ := attends.journal
    refine ⟨entries, journal, ?_⟩
    rw [attends.selfTests journal]
    by_cases begun : Job.test.begun (milestones (heard history)) = true
    · obtain ⟨handler, value, url, address, due, part, told, -⟩ := attends.trial journal begun
      refine .inr ⟨handler, value, url, address, due, part.filterMap Mark.entry?, ?_⟩
      rw [told]
      exact (List.prefix_append_right_inj _).mpr (part.filterMap Mark.message?)
    · have nothing := attends.unbegun begun
      exact .inl ⟨by rw [nothing]; rfl, attends.untested nothing⟩
  · obtain ⟨story, attends⟩ := course.attends unsent
    obtain ⟨entries, journal, -⟩ := attends.journal
    have all := course.serving.heard_all rests
    have only : OnlyEvaluates timings host.tasks := attends.settings.1 ▸ rests.idle
    have emitted : host.emitted.map Prod.snd = host.world.sent.filter isEmitted := all ▸ course.serving.emitted
    refine ⟨entries, journal, ?_⟩
    rw [attends.selfTests journal, emitted]
    by_cases begun : Job.test.begun (milestones (heard history)) = true
    · obtain ⟨handler, value, url, address, due, -, told, ended⟩ := attends.trial journal begun
      refine .inr ⟨handler, value, url, address, due, ?_, ?_⟩
      · rw [ended only]
        rfl
      · rw [verdicts_emitted, told, ended only]
        rfl
    · have nothing := attends.unbegun begun
      refine .inl ⟨fun handler due => begun ?_, by rw [nothing]; rfl, fun cmp result url member => ?_⟩
      · exact attends.scheduled journal due only (congrArg milestones all)
      · exact attends.untested nothing cmp result url (List.mem_of_mem_filter member)
  · refine ⟨?_, returns.rests⟩
    rw [returns.drained]
    exact ⟨_, course.drain⟩

theorem tests_follow_scripted : (Engine.untouchedPage scriptedPage [.steps scriptedRule]).sent = [] ∧
    Rests scriptedService ∧ ∃ handler value url address, IsDue scriptedService.world
      scriptedService.world.journal handler ∧
      selfTests scriptedService.world.journal = testEntries handler value ∧
      verdicts (scriptedService.emitted.map Prod.snd) = testVerdicts handler value url address := by
  have idle : scriptedService.tasks = [] := List.isEmpty_iff.mp (by decide +kernel)
  have drained : scriptedService.message? = none := Option.isNone_iff_eq_none.mp (by decide +kernel)
  have rests : Rests scriptedService := ⟨drained, by simp [OnlyEvaluates, idle]⟩
  have reported : .selfTestResult "banner" true "https://snapshot.test/" ∈ scriptedService.emitted.map Prod.snd := by
    decide +kernel
  obtain ⟨-, outcome, -, runs⟩ := tests_follow .usual ⟨true, .optOut, [], false, 0⟩ .empty
    (Engine.untouchedPage scriptedPage [.steps scriptedRule]) rfl
  obtain ⟨history, course⟩ := runs (fun step => step % 2 == 0) 40 []
  obtain ⟨entries, journal, ⟨-, -, untested⟩ | tested⟩ := outcome history scriptedService course rests
  · exact absurd reported (untested _ _ _)
  · obtain rfl : scriptedService.world.journal = entries := journal
    exact ⟨rfl, rests, tested⟩

end ConsentBanner.Host

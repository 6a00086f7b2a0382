import ConsentBanner.Proofs.Engine.Detection

/-!
# Doing what the host commands

What a command may do to the ledger of a page while other commands do what they may: all that it does is
lawful, its reports name the confirmed handler, or nobody if there was none when it began and it does not
look for one itself, and a self test leaves the engine as it is.
-/

set_option autoImplicit false

namespace ConsentBanner

open Engine
open Ledger (Quiet)
open Part (Keeps)

/-- What a command reports in the end. -/
structure Report where
  cmp : String
  result : Bool
  selfTest : Bool
  deriving DecidableEq, Repr

/-- The report of a command that had no handler. -/
def Report.blank : Report := ⟨nobody, false, false⟩

/-- What a message reports of a command. -/
def Outbound.report? : Outbound → Option Report
  | .optOutResult cmp result selfTest _ => some ⟨cmp, result, selfTest⟩
  | .optInResult cmp result selfTest _ => some ⟨cmp, result, selfTest⟩
  | .selfTestResult cmp result _ => some ⟨cmp, result, false⟩
  | _ => none

/-- A command that finds dialogs by itself. -/
def Inbound.starts : Inbound → Bool
  | .initResponse _ _ => true
  | _ => false

/-- A command and the handler that was confirmed when it began. -/
structure Charge where
  command : Inbound
  held : Option Handler

namespace Charge

def IsIdle (charge : Charge) : Prop := charge.held = none ∧ charge.command.starts = false

structure MaySay (charge : Charge) (held : Option Handler) (message : Outbound) : Prop where
  names : ∀ report ∈ message.report?,
    (∃ handler ∈ held, report.cmp = handler.name) ∨ charge.IsIdle ∧ report = .blank
  done : ∀ cmp url, message = .autoconsentDone cmp url → ¬charge.IsIdle

structure MayDo (charge : Charge) (before after : Ledger) : Prop where
  lawful : Lawful before after
  said : ∃ said, after.sent = before.sent ++ said ∧
    ∀ message ∈ said, charge.MaySay after.engine.found message
  spared : charge.command = .selfTest → after.engine = before.engine

variable {charge : Charge}

theorem MaySay.later {held later : Option Handler} {message : Outbound}
    (honest : charge.MaySay held message) (stays : ∀ handler, held = some handler → later = some handler) :
    charge.MaySay later message := by
  refine ⟨fun report is => ?_, honest.done⟩
  rcases honest.names report is with ⟨handler, isHeld, name⟩ | idle
  · exact .inl ⟨handler, stays handler isHeld, name⟩
  · exact .inr idle

theorem MaySay.other {held : Option Handler} {message : Outbound} (noReport : message.report? = none)
    (notDone : ∀ cmp url, message ≠ .autoconsentDone cmp url) : charge.MaySay held message := by
  refine ⟨fun report is => ?_, fun cmp url is => absurd is (notDone cmp url)⟩
  rw [noReport] at is
  cases is

namespace MayDo

theorem refl (ledger : Ledger) : charge.MayDo ledger ledger :=
  ⟨.refl ledger, ⟨[], by simp⟩, fun _ => rfl⟩

theorem trans {a b c : Ledger} (first : charge.MayDo a b) (second : charge.MayDo b c) :
    charge.MayDo a c := by
  obtain ⟨said, sent, honest⟩ := first.said
  obtain ⟨more, sentMore, honestMore⟩ := second.said
  refine ⟨first.lawful.trans second.lawful, ⟨said ++ more, ?_, fun message member => ?_⟩,
    fun test => (second.spared test).trans (first.spared test)⟩
  · rw [sentMore, sent, List.append_assoc]
  · rcases List.mem_append.mp member with member | member
    · exact (honest message member).later second.lawful.stays
    · exact honestMore message member

theorem quiet {before after : Ledger} (quiet : Quiet before after) : charge.MayDo before after := by
  have lawful := Lawful.quiet quiet
  obtain ⟨engine, -, asked, sent⟩ := quiet
  refine ⟨lawful, ⟨_, sent, fun message member => ?_⟩, fun _ => engine⟩
  obtain ⟨request, -, rfl⟩ := List.mem_map.mp member
  exact .other rfl (by simp)

theorem send {ledger : Ledger} {message : Outbound} (lawful : Lawful ledger (ledger.send message))
    (honest : charge.MaySay ledger.engine.found message) : charge.MayDo ledger (ledger.send message) := by
  refine ⟨lawful, ⟨[message], rfl, fun other member => ?_⟩, fun _ => rfl⟩
  obtain rfl := List.mem_singleton.mp member
  exact honest

theorem record {ledger : Ledger} {entry : JournalEntry} (lawful : Lawful ledger (ledger.record entry)) :
    charge.MayDo ledger (ledger.record entry) :=
  ⟨lawful, ⟨[], (List.append_nil _).symm, by simp⟩, fun _ => rfl⟩

theorem update {ledger : Ledger} {change : EngineState → EngineState}
    (busy : charge.command ≠ .selfTest) (same : (change ledger.engine).found = ledger.engine.found) :
    charge.MayDo ledger (ledger.update change) :=
  ⟨.update same, ⟨[], (List.append_nil _).symm, by simp⟩, fun test => absurd test busy⟩

theorem confirm {ledger : Ledger} {handler : Handler} {url address : String}
    (busy : charge.command ≠ .selfTest) (announced : .cmpDetected address handler.name ∈ ledger.sent) :
    charge.MayDo ledger (ledger.confirm handler url) := by
  refine ⟨.confirm announced, ⟨[_], rfl, fun other member => ?_⟩, fun test => absurd test busy⟩
  obtain rfl := List.mem_singleton.mp member
  exact .other rfl (by simp)

end MayDo

/-- The terms on which a command is carried out: others do what is lawful. -/
def terms (charge : Charge) : Terms where
  rely := Lawful
  guar := charge.MayDo
  rely_refl := .refl
  rely_trans := .trans
  guar_refl := .refl
  guar_trans := .trans
  quiet := .quiet

/-- The part of a command among others. -/
def part (charge : Charge) : Part Unit := charge.terms.part (fun _ _ => True) fun _ _ _ _ _ => trivial

theorem detects (charge : Charge) :
    Terms.Detects charge.terms charge.terms (fun _ => True) fun _ => True where
  relies := id
  allows := id
  social := MayDo.lawful
  stable _ _ := trivial
  quietly _ _ := trivial
  roster _ _ _ _ := trivial
  notes _ handler progress _ _ := by
    refine ⟨.record (.record ?_ fun acts => nomatch acts), trivial⟩
    cases progress <;> rfl
  reports _ _ _ := ⟨.send (.send rfl (by simp)) (.other rfl (by simp)), trivial⟩

theorem does_enter (known : Ledger → Prop) (busy : charge.command ≠ .selfTest) (phase : Phase)
    (keeps : ∀ now, known now → known (now.update fun state => { state with phase := phase })) :
    charge.terms.Does known (enter phase) fun _ => known :=
  Terms.does_update fun now knows => ⟨.update busy rfl, keeps now knows⟩

/-- What is known of the handler that a command takes for the confirmed one. -/
structure Holds (charge : Charge) (found : Option Handler) (now : Ledger) : Prop where
  idle : found = none ↔ charge.IsIdle
  held : ∀ handler ∈ found, now.engine.found = some handler

theorem Holds.keeps {found : Option Handler} : Keeps Lawful (charge.Holds found) :=
  fun holds lawful => ⟨holds.idle, fun handler is => lawful.stays handler (holds.held handler is)⟩

theorem Holds.quietly {found : Option Handler} : Keeps Quiet (charge.Holds found) :=
  fun holds quiet => holds.keeps (.quiet quiet)

theorem does_attempt {found : Option Handler} {routine : Routine} (timings : Timings)
    (isAct : routine.acts = true) :
    charge.terms.Does (charge.Holds found) (attempt timings found routine) fun value now =>
      charge.Holds found now ∧ (found = none → value = false) := by
  cases found with
  | none => exact Terms.does_pure fun _ holds => ⟨holds, fun _ => rfl⟩
  | some handler =>
      have noted : ∀ now progress, charge.Holds (some handler) now →
          charge.MayDo now (now.record ⟨handler.call routine, progress⟩) := by
        intro now progress holds
        have unconfirmed : JournalEntry.confirmed? ⟨handler.call routine, progress⟩ = none := by
          cases routine <;> first | rfl | cases isAct
        refine .record (.record unconfirmed fun _ => ?_)
        rw [holds.held handler rfl]
        rfl
      refine Terms.does_attempt _ Holds.keeps Holds.quietly (fun now holds => ⟨noted now _ holds, ?_⟩)
        fun value now holds => ⟨noted now _ holds, ?_, nofun⟩
      · exact ⟨holds.idle, holds.held⟩
      · exact ⟨holds.idle, holds.held⟩

theorem Holds.maySay {found : Option Handler} {now : Ledger} {message : Outbound} {report : Report}
    (holds : charge.Holds found now) (is : message.report? = some report)
    (name : report.cmp = reportedName found) (blank : found = none → report = .blank) :
    charge.MaySay now.engine.found message := by
  refine ⟨fun other isOther => ?_, fun cmp url isDone => ?_⟩
  · obtain rfl := Option.some.inj (is.symm.trans isOther)
    cases found with
    | none => exact .inr ⟨holds.idle.mp rfl, blank rfl⟩
    | some handler => exact .inl ⟨handler, holds.held handler rfl, name⟩
  · subst isDone
    cases is

/-- A decision is carried out for the confirmed handler, or for nobody. -/
theorem does_execute (busy : charge.command ≠ .selfTest) (timings : Timings) (decision : Decision) :
    charge.terms.Does (fun now => now.engine.found = none ↔ charge.IsIdle) (execute timings decision)
      fun _ _ => True := by
  refine (does_enter _ busy .executing fun now => id).andThen fun _ => ?_
  refine Terms.does_state.andThen fun state => ?_
  refine Terms.Does.via (fun value now =>
    charge.Holds state.found now ∧ (state.found = none → value = false)) ?_ fun result => ?_
  · refine (does_attempt timings ?_).given ?_
    · cases decision <;> rfl
    · rintro now ⟨rfl, idle⟩
      exact ⟨idle, fun handler is => is⟩
  refine Terms.Does.fact fun unsuccessful => ?_
  refine (Terms.does_undoPrehide Holds.keeps).andThen fun _ => ?_
  refine (does_enter _ busy .reporting fun now holds => ⟨holds.idle, holds.held⟩).andThen fun _ => ?_
  refine (Terms.does_ask Holds.keeps).andThen fun url => ?_
  refine (Terms.does_holds _ Terms.does_hasSelfTest).andThen fun selfTest => ?_
  refine Terms.Does.fact fun ⟨noTest, _⟩ => ?_
  let report := decision.report (reportedName state.found) result selfTest url
  refine Terms.Does.via (fun _ now =>
    charge.Holds state.found now ∧ now.sent.getLast? = some report) ?_ fun _ => ?_
  · refine Terms.does_send fun now holds => ⟨.send ?_ ?_, ⟨holds.idle, holds.held⟩, by simp [Ledger.send, report]⟩
    · cases decision <;> exact .send rfl (by simp [Decision.report])
    · cases decision with
      | optOut =>
          refine holds.maySay rfl rfl fun nobodyThere => ?_
          rw [unsuccessful nobodyThere, noTest nobodyThere, nobodyThere]
          rfl
      | optIn =>
          refine holds.maySay rfl rfl fun nobodyThere => ?_
          rw [unsuccessful nobodyThere, nobodyThere]
          rfl
  have rest : charge.terms.Does (fun _ => True) (do enter .done; return result) fun _ _ => True :=
    (does_enter _ busy .done fun _ => id).andThen fun _ => Terms.does_pure fun _ => id
  refine Terms.does_ite (fun success => ?_) fun _ => rest.given fun _ _ => trivial
  refine (Terms.does_holds (fun _ _ => True) fun handler => ?_).andThen fun complete => ?_
  · exact (Terms.does_isIntermediate handler).andThen fun _ =>
      Terms.does_pure fun _ ended => ⟨ended.1, trivial⟩
  refine Terms.does_ite (fun _ => ?_) fun _ => rest.given fun _ _ => trivial
  refine Terms.Does.andThen (Terms.does_send fun now ended => ?_) fun _ => rest
  obtain ⟨⟨holds, last⟩, -⟩ := ended
  have succeeds : report.Succeeds (reportedName state.found) url := by
    subst success
    cases decision with
    | optOut => exact ⟨selfTest, .inl rfl⟩
    | optIn => exact ⟨false, .inr rfl⟩
  refine ⟨.send (.conclude last succeeds) ⟨fun _ is => (by cases is), fun _ _ _ idle => ?_⟩, trivial⟩
  rw [unsuccessful (holds.idle.mpr idle)] at success
  cases success

/-- The self test tries the confirmed handler, or nobody. -/
theorem does_selfTest (timings : Timings) :
    charge.terms.Does (fun now => now.engine.found = none ↔ charge.IsIdle) (selfTest timings)
      fun _ _ => True := by
  refine Terms.does_state.andThen fun state => ?_
  refine Terms.Does.via (fun value now =>
    charge.Holds state.found now ∧ (state.found = none → value = false)) ?_ fun result => ?_
  · refine (does_attempt timings rfl).given ?_
    rintro now ⟨rfl, idle⟩
    exact ⟨idle, fun handler is => is⟩
  refine Terms.Does.fact fun unsuccessful => ?_
  refine (Terms.does_ask Holds.keeps).andThen fun url => ?_
  refine Terms.Does.andThen (Terms.does_send fun now holds => ?_) fun _ => Terms.does_pure fun _ => id
  refine ⟨.send (.send rfl (by simp)) (holds.maySay rfl rfl fun nobodyThere => ?_), trivial⟩
  rw [unsuccessful nobodyThere, nobodyThere]
  rfl

theorem awaits (busy : charge.command ≠ .selfTest) (handler : Handler) (url : String) :
    Terms.Awaits charge.terms handler url
      (fun _ now => .cmpDetected url handler.name ∈ now.sent)
      (fun _ now => .cmpDetected url handler.name ∈ now.sent)
      (fun _ now => now.engine.found.isSome) where
  waitsStable _ _ _ announced lawful := lawful.sent.subset announced
  asksStable _ _ _ announced lawful := lawful.sent.subset announced
  asksQuietly _ _ _ announced quiet := (Lawful.quiet quiet).sent.subset announced
  begun _ _ announced := ⟨.record (.record rfl nofun), announced⟩
  came _ _ announced := ⟨.record (.record rfl nofun), announced⟩
  confirms _ now announced :=
    ⟨.confirm busy announced, by rw [Ledger.found_confirm, Option.isSome_some]⟩

theorem does_giveUp (busy : charge.command ≠ .selfTest) (phase : Phase) :
    charge.terms.Does (fun _ => True) (giveUp phase) fun _ _ => True := by
  refine (does_enter _ busy phase fun _ => id).andThen fun _ => ?_
  refine (Terms.does_undoPrehide fun _ _ => trivial).andThen fun _ => ?_
  exact Terms.does_pure fun _ => id

theorem does_decide (busy : charge.command ≠ .selfTest) (starts : charge.command.starts = true)
    (timings : Timings) (action : AutoAction) :
    charge.terms.Does (fun now => now.engine.found.isSome) (decide timings action) fun _ _ => True := by
  have acts : ∀ decision, charge.terms.Does (fun now => now.engine.found.isSome)
      (execute timings decision) fun _ _ => True := by
    intro decision
    refine (does_execute busy timings decision).given fun now found => ?_
    refine ⟨fun noOne => ?_, fun idle => ?_⟩
    · rw [noOne] at found
      cases found
    · exact Bool.noConfusion (starts.symm.trans idle.2)
  refine (does_enter _ busy .deciding fun _ => id).andThen fun _ => ?_
  cases action with
  | optOut => exact acts .optOut
  | optIn => exact acts .optIn
  | doNothing =>
      refine (does_enter _ busy .done fun _ => id).andThen fun _ => ?_
      exact Terms.does_pure fun _ _ => trivial

theorem does_start (starts : charge.command.starts = true) (timings : Timings) :
    charge.terms.Does (fun _ => True) (start timings) fun _ _ => True := by
  have busy : charge.command ≠ .selfTest := by
    intro test
    rw [test] at starts
    cases starts
  refine Terms.does_state.andThen fun state => ?_
  refine ((does_enter (fun _ => True) busy .detecting fun _ => id).given fun _ _ => trivial).andThen
    fun _ => ?_
  refine (charge.detects.does_findCandidates (fun _ => True) timings (fun _ _ => trivial)
    _).andThen fun candidates => Terms.Does.fact fun _ => Terms.does_ite (fun _ => ?_) fun _ => ?_
  · exact does_giveUp busy .noneFound
  refine (Terms.does_ask fun _ _ => trivial).andThen fun url => ?_
  let announced : List Handler → Ledger → Prop := fun rest now =>
    ∀ handler ∈ candidates, handler ∈ rest ∨ .cmpDetected url handler.name ∈ now.sent
  refine Terms.Does.via (fun _ => announced [])
    ((Terms.does_each announced ?_ candidates).given fun _ _ _ => .inl) fun _ => ?_
  · refine fun handler rest => Terms.does_send fun now known => ⟨.send ?_ ?_, fun other member => ?_⟩
    · exact .send rfl (by simp)
    · exact .other rfl (by simp)
    · rcases known other member with within | before
      · rcases List.mem_cons.mp within with rfl | within
        · exact .inr (by simp [Ledger.send])
        · exact .inl within
      · exact .inr (by simp [Ledger.send, before])
  refine (does_enter _ busy .confirming fun _ => id).andThen fun _ => ?_
  refine Terms.does_race (fun now => now.engine.found.isSome) MayDo.lawful ?_ ?_ ?_
    (does_decide busy starts timings _) ?_
  · intro before after known lawful handler member
    exact (known handler member).imp id (lawful.sent.subset ·)
  · intro before after found lawful
    obtain ⟨handler, held⟩ := Option.isSome_iff_exists.mp found
    exact Option.isSome_iff_exists.mpr ⟨handler, lawful.stays handler held⟩
  · intro lane member
    obtain ⟨handler, within, rfl⟩ := List.mem_map.mp member
    refine (((awaits busy handler url).does_lane timings).given fun now known => ?_).imp ?_
    · simpa using known handler within
    · rintro _ now ended rfl
      obtain ⟨_, _, found⟩ := ended
      exact found
  · intro result
    cases result with
    | none => exact does_giveUp busy .noPopup
    | some acted => exact Terms.does_pure fun _ _ => trivial

theorem does_setUp (starts : charge.command.starts = true) (timings : Timings) (config : EngineConfig)
    (rules : RuleSet) :
    charge.terms.Does (fun _ => True) (setUp timings config rules) fun _ _ => True := by
  have busy : charge.command ≠ .selfTest := by
    intro test
    rw [test] at starts
    cases starts
  have begins : charge.terms.Does (fun _ => True)
      (do waitUntilReady timings; Engine.start timings) fun _ _ => True :=
    (Terms.does_modest (waitUntilReady_modest timings) (fun _ _ => trivial)
      fun _ _ => trivial).andThen fun _ => does_start starts timings
  refine Terms.Does.via (fun _ _ => True) (Terms.does_update fun now known => ⟨.update busy rfl, known⟩)
    fun _ => ?_
  refine Terms.does_ite (fun _ => ?_) fun _ => ?_
  · have kept : ∀ state : EngineState,
        ((state.addRules rules).disable config.disabledCmps).found = state.found :=
      fun state => (EngineState.sameButRoster_addRules rules state).found
    refine Terms.Does.via (fun _ _ => True)
      (Terms.does_update fun now known => ⟨.update busy (kept _), known⟩) fun _ => Terms.does_ite (fun _ => ?_) fun _ => begins
    exact (Terms.does_prehide fun _ _ => trivial).andThen fun _ => begins
  · exact (does_enter _ busy .done fun _ => id).andThen fun _ => Terms.does_pure fun _ => id

/-- Every command does what it may, if others do what is lawful. -/
theorem does_receive (timings : Timings) (command : Inbound) (held : Option Handler) :
    (Charge.mk command held).terms.Does (fun now => now.engine.found = held)
      (receive timings command) fun _ _ => True := by
  have idle : command.starts = false → ∀ now : Ledger, now.engine.found = held →
      (now.engine.found = none ↔ (Charge.mk command held).IsIdle) := by
    rintro passive now rfl
    exact ⟨fun noOne => ⟨noOne, passive⟩, fun idle => idle.1⟩
  cases command with
  | initResponse config rules =>
      refine Terms.Does.andThen ((does_setUp rfl timings config rules).given fun _ _ => trivial) fun _ => ?_
      exact Terms.does_pure fun _ => id
  | optOut =>
      refine Terms.Does.andThen ((does_execute (by simp) timings .optOut).given (idle rfl)) fun _ => ?_
      exact Terms.does_pure fun _ => id
  | optIn =>
      refine Terms.Does.andThen ((does_execute (by simp) timings .optIn).given (idle rfl)) fun _ => ?_
      exact Terms.does_pure fun _ => id
  | selfTest =>
      refine Terms.Does.andThen ((does_selfTest timings).given (idle rfl)) fun _ => ?_
      exact Terms.does_pure fun _ => id
  | evalResponse id result =>
      refine Terms.Does.via (fun _ _ => True) ?_ fun _ => Terms.does_pure fun _ _ => trivial
      intro since now kept known
      refine Flow.obeys_request rfl fun _ _ replied => ?_
      obtain rfl := replied
      exact ⟨kept, trivial⟩

end Charge

end ConsentBanner

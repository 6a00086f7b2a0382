import ConsentBanner.Proofs.Engine.Errand
import ConsentBanner.Proofs.Flow.Adequacy

/-!
# Sessions

In a session the host gives any number of commands, and the engine carries them out side by side: at any
time one of them goes on by a turn, whatever page and host reply.  Main statement:
`Session.run_consistent`, what holds in every session at any time, and what no step of it ever does.
-/

set_option autoImplicit false

namespace ConsentBanner

open Flow (Burst Turn Turns)

/-- A command that is carried out: what it has said so far and how it goes on. -/
structure Errand where
  charge : Charge
  said : List Outbound
  flow : Flow Unit

/-- A page with its engine and all commands of the host. -/
structure Session where
  ledger : Ledger
  errands : List Errand

namespace Session

/-- The messages that were sent from one time to another. -/
def saidBetween (before after : Ledger) : List Outbound := after.sent.drop before.sent.length

def afterTurn (ahead behind : List Errand) (errand : Errand) (before after : Ledger)
    (flow : Flow Unit) : Session :=
  ⟨after, ahead ++ ⟨errand.charge, errand.said ++ saidBetween before after, flow⟩ :: behind⟩

/-- One step of a session, and the command that it belongs to.  A command begins as soon as it is
given, so it finds the handler that is confirmed then. -/
inductive Step (timings : Timings) : Inbound → Session → Session → Prop where
  | begin {before after : Ledger} {errands : List Errand} {flow : Flow Unit} (command : Inbound)
      (burst : Burst (Engine.receive timings command) before flow after) :
      Step timings command ⟨before, errands⟩
        ⟨after, errands ++ [⟨⟨command, before.engine.found⟩, saidBetween before after, flow⟩]⟩
  | goOn {before after : Ledger} {ahead behind : List Errand} {errand : Errand} {flow : Flow Unit}
      (turn : Turn errand.flow before flow after) :
      Step timings errand.charge.command ⟨before, ahead ++ errand :: behind⟩
        (afterTurn ahead behind errand before after flow)

/-- Any number of steps. -/
inductive Run (timings : Timings) : Session → Session → Prop where
  | refl (session : Session) : Run timings session session
  | step {first middle last : Session} {command : Inbound} (run : Run timings first middle)
      (next : Step timings command middle last) : Run timings first last

theorem Run.goOn {timings : Timings} {first : Session} {charge : Charge} {flow after : Flow Unit}
    {before later : Ledger} (ahead : List Errand) {behind : List Errand}
    (turns : Turns flow before after later) :
    ∀ {said : List Outbound}, Run timings first ⟨before, ahead ++ ⟨charge, said, flow⟩ :: behind⟩ →
      ∃ said, Run timings first ⟨later, ahead ++ ⟨charge, said, after⟩ :: behind⟩ := by
  induction turns with
  | refl => exact fun run => ⟨_, run⟩
  | head turn _ ih => exact fun run => ih (run.step (.goOn turn))

theorem run_command (timings : Timings) (command : Inbound) (world : World) :
    ∃ said, Run timings ⟨world.ledger, []⟩
      ⟨((Engine.receive timings command).run world).2.ledger,
        [⟨⟨command, world.engine.found⟩, said, ((Engine.receive timings command).run world).1⟩]⟩ := by
  obtain ⟨between, middle, burst, turns⟩ := ((Engine.receive timings command).run_adequate world).goes
  have began : Run timings ⟨world.ledger, []⟩ _ := .step (.refl _) (.begin command burst)
  exact Run.goOn [] turns began

/-- What is found true of a session between two steps. -/
structure Proper (session : Session) : Prop where
  sound : session.ledger.Sound
  plays : ∀ errand ∈ session.errands, errand.charge.part.Holds errand.flow session.ledger
  honest : ∀ errand ∈ session.errands, ∀ message ∈ errand.said,
    errand.charge.MaySay session.ledger.engine.found message
  attributed : ∀ message ∈ session.ledger.sent, ∃ errand ∈ session.errands, message ∈ errand.said

theorem proper_start {ledger : Ledger} (fresh : ledger.IsFresh) : Proper ⟨ledger, []⟩ :=
  ⟨fresh.sound, by simp, by simp, by simp [fresh.sent]⟩

theorem saidBetween_eq {before after : Ledger} {said : List Outbound}
    (sent : after.sent = before.sent ++ said) : saidBetween before after = said := by
  rw [saidBetween, sent, List.drop_left]

theorem Proper.after {before after : Ledger} {ahead behind : List Errand} {charge : Charge}
    {said : List Outbound} {flow : Flow Unit}
    (sound : before.Sound)
    (plays : ∀ errand ∈ ahead ++ behind, errand.charge.part.Holds errand.flow before)
    (honest : ∀ errand ∈ ahead ++ behind, ∀ message ∈ errand.said,
      errand.charge.MaySay before.engine.found message)
    (own : ∀ message ∈ said, charge.MaySay before.engine.found message)
    (attributed : ∀ message ∈ before.sent,
      message ∈ said ∨ ∃ errand ∈ ahead ++ behind, message ∈ errand.said)
    (did : charge.MayDo before after) (holds : charge.part.Holds flow after) :
    Proper ⟨after, ahead ++ ⟨charge, said ++ saidBetween before after, flow⟩ :: behind⟩ := by
  obtain ⟨more, sent, honestMore⟩ := did.said
  have self : ⟨charge, said ++ saidBetween before after, flow⟩ ∈
      ahead ++ ⟨charge, said ++ saidBetween before after, flow⟩ :: behind := by simp
  have members : ∀ errand ∈ ahead ++ ⟨charge, said ++ saidBetween before after, flow⟩ :: behind,
      errand = ⟨charge, said ++ saidBetween before after, flow⟩ ∨ errand ∈ ahead ++ behind :=
    fun errand => mem_insert
  refine ⟨did.lawful.sound sound, fun errand member => ?_, fun errand member message within => ?_,
    fun message member => ?_⟩
  · rcases members errand member with rfl | other
    · exact holds
    · exact (plays errand other).later did.lawful
  · rcases members errand member with rfl | other
    · rw [saidBetween_eq sent] at within
      rcases List.mem_append.mp within with old | new
      · exact (own message old).later did.lawful.stays
      · exact honestMore message new
    · exact (honest errand other message within).later did.lawful.stays
  · rw [sent] at member
    have old : ∀ errand ∈ ahead ++ behind,
        errand ∈ ahead ++ ⟨charge, said ++ saidBetween before after, flow⟩ :: behind :=
      fun _ other => subset_insert _ ahead behind other
    rcases List.mem_append.mp member with sentBefore | new
    · rcases attributed message sentBefore with mine | ⟨errand, other, within⟩
      · exact ⟨_, self, List.mem_append_left _ mine⟩
      · exact ⟨errand, old errand other, within⟩
    · exact ⟨_, self, List.mem_append_right _ ((saidBetween_eq sent).symm ▸ new)⟩

theorem Proper.step {timings : Timings} {command : Inbound} {first last : Session}
    (proper : first.Proper) (step : Step timings command first last) :
    last.Proper ∧ ∃ held, Charge.MayDo ⟨command, held⟩ first.ledger last.ledger := by
  cases step with
  | @begin before after errands flow _ burst =>
      let charge : Charge := ⟨command, before.engine.found⟩
      have obeys := Charge.does_receive timings command before.engine.found before before (.refl before) rfl
      have ⟨did, holds⟩ : charge.part.guar before after ∧ charge.part.Holds flow after :=
        burst.keeps obeys
      refine ⟨?_, _, did⟩
      have own : ∀ message ∈ ([] : List Outbound), charge.MaySay before.engine.found message := by
        simp
      refine Proper.after proper.sound ?_ ?_ own ?_ did holds
      · simpa using proper.plays
      · simpa using proper.honest
      · simpa using proper.attributed
  | @goOn before after ahead behind errand flow turn =>
      have member : errand ∈ ahead ++ errand :: behind := by simp
      have others : ∀ other ∈ ahead ++ behind, other ∈ ahead ++ errand :: behind :=
        fun _ within => subset_insert errand ahead behind within
      have ⟨did, holds⟩ := turn.keeps (proper.plays errand member)
      refine ⟨?_, _, did⟩
      refine Proper.after proper.sound (fun other within => proper.plays other (others other within))
        (fun other within => proper.honest other (others other within)) (proper.honest errand member)
        (fun message sent => ?_) did holds
      obtain ⟨other, within, said⟩ := proper.attributed message sent
      rcases mem_insert within with rfl | within
      · exact .inl said
      · exact .inr ⟨other, within, said⟩

theorem Proper.run {timings : Timings} {first last : Session} (run : Run timings first last)
    (proper : first.Proper) : last.Proper := by
  induction run with
  | refl => exact proper
  | step _ next ih => exact (ih.step next).1

/-- What holds of a session at any time. -/
structure Consistent (session : Session) : Prop where
  /-- The confirmed handler is the one that the first report of a dialog names, if there is one. -/
  first : session.ledger.engine.found.map Handler.name = (popups session.ledger.sent).head?
  announced : Announced session.ledger.sent
  /-- Only the confirmed handler ever did something about a dialog, after it had been confirmed. -/
  acted : ∀ entry ∈ session.ledger.journal, entry.call.routine.acts = true →
    ∃ handler ∈ session.ledger.engine.found, entry.call = handler.call entry.call.routine
  rightful : Rightful session.ledger.journal
  /-- Whoever confirmed first is the one who is kept. -/
  held : session.ledger.engine.found.map Handler.badge = (confirmations session.ledger.journal).head?
  /-- Every message was sent for a command. -/
  attributed : ∀ message ∈ session.ledger.sent, ∃ errand ∈ session.errands, message ∈ errand.said
  /-- Reports name the confirmed handler.  Those that name nobody report failure of a command that
  found no handler and completes no page. -/
  named : ∀ errand ∈ session.errands, ∀ message ∈ errand.said, ∀ report ∈ message.report?,
    (∃ handler ∈ session.ledger.engine.found, report.cmp = handler.name) ∨
      errand.charge.held = none ∧ report = ⟨"none", false, false⟩ ∧
        ∀ cmp url, .autoconsentDone cmp url ∉ errand.said
  concluded : Concluded session.ledger.sent

theorem Proper.consistent {session : Session} (proper : session.Proper) : session.Consistent := by
  have sound := proper.sound
  refine ⟨?_, sound.announced, fun entry member acts => ?_, sound.rightful, sound.held,
    proper.attributed, fun errand member message within report is => ?_, sound.concluded⟩
  · rw [sound.told, List.head?_map, ← sound.held, Option.map_map]
    rfl
  · obtain ⟨before, after, split⟩ := List.append_of_mem member
    have first := sound.rightful before entry after split
    have held := sound.held
    rw [split, confirmations, List.filterMap_append, List.head?_append] at held
    change _ = (confirmations before).head?.or _ at held
    rw [first acts, Option.some_or] at held
    obtain ⟨handler, isHeld, badge⟩ := Option.map_eq_some_iff.mp held
    refine ⟨handler, isHeld, ?_⟩
    obtain ⟨slot, name⟩ := Prod.mk.inj badge
    exact (by rw [Handler.call, slot, name])
  · rcases (proper.honest errand member message within).names report is with named | ⟨idle, blank⟩
    · exact .inl named
    · refine .inr ⟨idle.1, blank, fun cmp url said => ?_⟩
      exact (proper.honest errand member _ said).done cmp url rfl idle

/-- Whatever the host commands and however the commands interleave, engine, messages and journal agree.
No step gives up the confirmed handler or takes a message back, and a self test leaves the engine as it
is. -/
theorem run_consistent (timings : Timings) {ledger : Ledger} {session : Session} (fresh : ledger.IsFresh)
    (run : Run timings ⟨ledger, []⟩ session) :
    session.Consistent ∧
      ∀ command next, Step timings command session next →
        (∀ handler, session.ledger.engine.found = some handler → next.ledger.engine.found = some handler) ∧
        session.ledger.sent <+: next.ledger.sent ∧
        (command = .selfTest → next.ledger.engine = session.ledger.engine) := by
  have proper := (proper_start fresh).run run
  refine ⟨proper.consistent, fun command next step => ?_⟩
  obtain ⟨-, held, did⟩ := proper.step step
  exact ⟨did.lawful.stays, did.lawful.sent, did.spared⟩

/-- Where nobody was confirmed, opting out reports failure. -/
theorem run_consistent_optOut : ∃ session, Run .usual ⟨(World.start (.ofText "")).ledger, []⟩ session ∧
    session.ledger.sent = [.optOutResult "none" false false "https://snapshot.test/"] ∧
    session.Consistent := by
  obtain ⟨said, run⟩ := run_command .usual .optOut (World.start (.ofText ""))
  exact ⟨_, run, rfl, (run_consistent .usual ⟨rfl, rfl, rfl⟩ run).1⟩

end Session

end ConsentBanner

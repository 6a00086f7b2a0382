import ConsentBanner.Proofs.Engine.Decisions
import ConsentBanner.Proofs.Engine.Visit
import ConsentBanner.Proofs.Page.Nesting
import Mathlib.Logic.Relation

/-!
# Passages

The passage of a visit is all of it, moment by moment: commands are given and carried out side by side, while the page
changes as it likes.  Whatever was told of a command was told at some moment of the passage, when just what comes
before it had been told (`Visit.Passage.moment`).  Who was found stays so, the journal only grows, and the document is
the same all the time (`Visit.Passage.since`).
-/

set_option autoImplicit false

namespace ConsentBanner

open Engine
open Flow (Confined Steps)

namespace Stage

/-- What may happen beside all commands: anything becomes of the page but that its document changes, and of what the
engine knows but that another handler is found; nobody learns anything, and nothing is noted. -/
structure Drifts (before after : Stage) : Prop where
  document : after.page.document = before.page.document
  found : after.ledger.engine.found = before.ledger.engine.found
  memories : after.ledger.memories = before.ledger.memories
  journal : after.ledger.journal = before.ledger.journal

/-- What is so at any later moment of a visit. -/
structure Precedes (before after : Stage) : Prop where
  document : after.page.document = before.page.document
  found : ∀ handler, before.ledger.engine.found = some handler → after.ledger.engine.found = some handler
  journal : before.ledger.journal <+: after.ledger.journal

theorem Precedes.refl (stage : Stage) : stage.Precedes stage := ⟨rfl, fun _ => id, List.prefix_rfl⟩

theorem Precedes.trans {first middle last : Stage} (one : first.Precedes middle) (two : middle.Precedes last) :
    first.Precedes last :=
  ⟨two.document.trans one.document, fun handler found => two.found handler (one.found handler found),
    one.journal.trans two.journal⟩

theorem Precedes.select {before after : Stage} (precedes : before.Precedes after) (selector : String) :
    after.page.select selector = before.page.select selector := by
  unfold Snapshot.select
  rw [precedes.document]

theorem Drifts.precedes {before after : Stage} (drifts : before.Drifts after) : before.Precedes after :=
  ⟨drifts.document, fun _ found => drifts.found.trans found, drifts.journal ▸ List.prefix_rfl⟩

end Stage

theorem Ledger.MayReply.journal {β : Type} {request : Request β} {reply : β} {before after : Ledger}
    (replied : before.MayReply request reply after) : before.journal <+: after.journal := by
  rw [replied.eq_upon]
  cases request with
  | record _ => exact List.prefix_append _ _
  | _ => exact List.prefix_rfl

/-- Whatever was said was sent, but for requests for page script. -/
theorem Ledger.MayReply.sends {exchange : Exchange} {before after : Ledger} {message : Outbound}
    (replied : before.MayReply exchange.request exchange.reply after)
    (speaks : ∀ id code, message ≠ .evalRequest id code) (said : message ∈ after.sent) :
    message ∈ before.sent ∨ exchange = ⟨.send message, ()⟩ := by
  obtain ⟨request, reply⟩ := exchange
  rw [replied.eq_upon] at said
  cases request with
  | send other =>
      rcases List.mem_append.mp said with old | new
      · exact .inl old
      · exact .inr (by rw [List.mem_singleton.mp new])
  | openEval code =>
      rcases List.mem_append.mp said with old | new
      · exact .inl old
      · exact (speaks reply code (List.mem_singleton.mp new)).elim
  | _ => exact .inl said

theorem Stage.Follows.sends {story : List Exchange} {before after : Stage} {message : Outbound}
    (follows : before.Follows Eq story after) (speaks : ∀ id code, message ≠ .evalRequest id code)
    (said : message ∈ after.ledger.sent) : message ∈ before.ledger.sent ∨ ⟨.send message, ()⟩ ∈ story := by
  induction story generalizing before with
  | nil => exact .inl ((show before = after from follows) ▸ said)
  | cons exchange rest ih =>
      obtain ⟨_, between, rfl, replied, onward⟩ := follows
      rcases ih onward with earlier | told
      · refine (replied.ledger.sends speaks earlier).imp_right fun is => ?_
        rw [is]
        exact List.mem_cons_self
      · exact .inr (List.mem_cons_of_mem exchange told)

theorem Stage.MayReply.document {β : Type} {request : Request β} {reply : β} {before after : Stage}
    (replied : before.MayReply request reply after) : after.page.document = before.page.document := by
  cases request with
  | page call =>
      obtain ⟨-, rfl⟩ := replied
      exact before.page.document_perform call
  | _ => rw [replied.2]

theorem Stage.MayReply.precedes {exchange : Exchange} {before after : Stage}
    (replied : before.MayReply exchange.request exchange.reply after) (keeps : exchange.request.KeepsFound) :
    before.Precedes after :=
  ⟨replied.document, fun _ found => replied.ledger.found keeps found, replied.ledger.journal⟩

namespace Visit

def Proceeds (place : Nat) (told : List Exchange) (before after : Visit) : Prop :=
  ∃ (mandate : Mandate) (flow : Flow Unit), before.mandates[place]? = some mandate ∧ Flow.Step mandate.flow told flow ∧
    before.stage.Follows Eq told after.stage ∧
    after.mandates = before.mandates.set place ⟨mandate.command, mandate.story ++ told, flow⟩

/-- One step of a visit: something happens beside all commands, the host gives a command, or one of the commands goes
on. -/
inductive Moves (timings : Timings) : Visit → Visit → Prop where
  | drift {before after : Stage} {mandates : List Mandate} (drifts : before.Drifts after) :
      Moves timings ⟨before, mandates⟩ ⟨after, mandates⟩
  | begin {stage : Stage} {mandates : List Mandate} (command : Inbound) :
      Moves timings ⟨stage, mandates⟩ ⟨stage, mandates ++ [.begun timings command]⟩
  | proceed {before after : Visit} {place : Nat} {told : List Exchange} (proceeds : Proceeds place told before after) :
      Moves timings before after

/-- The passage of a visit, from before the first command on.  It may last for ever; where it does not, nothing
changes any more. -/
structure Passage (timings : Timings) (visits : Nat → Visit) : Prop where
  idle : (visits 0).mandates = []
  moves : ∀ n, (visits n).Moves timings (visits (n + 1))

/-- Something was told of the command in some place. -/
def Tells (visit : Visit) (place : Nat) (exchange : Exchange) : Prop :=
  ∃ mandate, visit.mandates[place]? = some mandate ∧ exchange ∈ mandate.story

section Commands

variable {timings : Timings} {command : Inbound}

/-- No command finds anybody else once somebody is found. -/
theorem keepsFound_receive (timings : Timings) (command : Inbound) :
    (receive timings command).Confined Request.KeepsFound true := by
  have steadily : ∀ {α : Type} {flow : Flow α}, Steady (fun _ => True) flow → flow.Confined Request.KeepsFound true :=
    fun steady => (steady.weaken fun _ steady => steady.keepsFound).1
  cases command with
  | initResponse config rules => exact .andThen (keepsFound_setUp config rules) fun _ => .pure _
  | optOut => exact .andThen (steadily (steady_execute timings trivial)) fun _ => .pure _
  | optIn => exact .andThen (steadily (steady_execute timings trivial)) fun _ => .pure _
  | selfTest => exact .andThen (steadily (steady_selfTest timings trivial)) fun _ => .pure _
  | evalResponse id result => exact .andThen (.request trivial trivial) fun _ => .pure _

end Commands

section Moves

variable {timings : Timings} {visit later : Visit} {place : Nat} {mandate : Mandate} {exchange : Exchange}
  {told : List Exchange}

/-- Whatever stands after a step stood before it, has just begun, or has gone on. -/
theorem Moves.stood (moves : visit.Moves timings later) (stands : later.mandates[place]? = some mandate) :
    visit.mandates[place]? = some mandate ∨ mandate = .begun timings mandate.command ∨
      ∃ (told : List Exchange) (own : Mandate), visit.Proceeds place told later ∧
        visit.mandates[place]? = some own ∧ Flow.Step own.flow told mandate.flow ∧ mandate.command = own.command ∧
        mandate.story = own.story ++ told := by
  cases moves with
  | drift _ => exact .inl stands
  | begin command =>
      rw [List.getElem?_append] at stands
      split at stands
      · exact .inl stands
      · obtain ⟨_, is⟩ := List.getElem?_eq_some_iff.mp stands
        obtain rfl : .begun timings command = mandate := by simpa using is
        exact .inr (.inl rfl)
  | @proceed _ _ other told proceeds =>
      obtain ⟨own, flow, stood, step, -, is⟩ := id proceeds
      rw [is, List.getElem?_set] at stands
      split at stands
      next same =>
        subst same
        split at stands
        · obtain rfl := Option.some.inj stands
          exact .inr (.inr ⟨told, own, proceeds, stood, step, rfl, rfl⟩)
        · cases stands
      next => exact .inl stands

theorem Proceeds.replied (proceeds : visit.Proceeds place [exchange] later) :
    visit.stage.MayReply exchange.request exchange.reply later.stage := by
  obtain ⟨_, _, -, -, ⟨_, _, rfl, replied, rfl⟩, -⟩ := proceeds
  exact replied

/-- What a handler remembers stays as it is unless a command has it changed. -/
theorem Moves.remembers (moves : visit.Moves timings later) (slot : Nat) :
    later.stage.ledger.memory slot = visit.stage.ledger.memory slot ∨ ∃ (place : Nat) (change : Memory → Memory),
      visit.Proceeds place [⟨.remember slot change, ()⟩] later := by
  have memory_eq : ∀ {one two : Ledger}, two.memories = one.memories → two.memory slot = one.memory slot :=
    fun same => by rw [Ledger.memory, same, Ledger.memory]
  cases moves with
  | drift drifts => exact .inl (memory_eq drifts.memories)
  | begin command => exact .inl rfl
  | @proceed _ _ place told proceeds =>
      obtain ⟨_, _, -, step, follows, -⟩ := id proceeds
      rcases step.single with rfl | ⟨exchange, rfl⟩
      · exact .inl (by rw [show visit.stage = later.stage from follows])
      · have replied := proceeds.replied.ledger
        by_cases learned : exchange.cue? = some .learned
        · obtain ⟨request, reply⟩ := exchange
          cases request with
          | remember other change =>
              by_cases same : other = slot
              · subst same
                exact .inr ⟨place, change, proceeds⟩
              · refine .inl ?_
                rw [show later.stage.ledger = _ from replied]
                simp [Ledger.memory, Ledger.remember, Keyed.get?_put_of_ne _ _ same]
          | send _ | record _ => simp [Exchange.cue?] at learned
          | _ => cases learned
        · exact .inl (memory_eq (replied.memories learned))

end Moves

namespace Passage

variable {timings : Timings} {visits : Nat → Visit} {n place : Nat} {mandate : Mandate} {exchange : Exchange}
  {before after : List Exchange} (passage : Passage timings visits)

include passage

theorem steps (stands : (visits n).mandates[place]? = some mandate) :
    Steps (receive timings mandate.command) mandate.story mandate.flow := by
  induction n generalizing mandate with
  | zero => simp [passage.idle] at stands
  | succ n ih =>
      rcases (passage.moves n).stood stands with old | new | ⟨told, own, -, stood, step, command, story⟩
      · exact ih old
      · rw [new]
        exact .refl _
      · rw [command, story]
        have more : Steps own.flow told mandate.flow := told.append_nil ▸ .head step (.refl _)
        exact (ih stood).trans more

/-- Whatever was told of a command was told at some moment, when just what comes before it had been told. -/
theorem moment (stands : (visits n).mandates[place]? = some mandate)
    (story : mandate.story = before ++ exchange :: after) :
    ∃ m < n, (visits m).Proceeds place [exchange] (visits (m + 1)) ∧ ∃ own,
      (visits m).mandates[place]? = some own ∧ own.command = mandate.command ∧ own.story = before := by
  induction n generalizing mandate after with
  | zero => simp [passage.idle] at stands
  | succ n ih =>
      have onward : ∀ {old : Mandate} {rest : List Exchange}, (visits n).mandates[place]? = some old →
          mandate.command = old.command → old.story = before ++ exchange :: rest → ∃ m < n + 1,
            (visits m).Proceeds place [exchange] (visits (m + 1)) ∧ ∃ own,
              (visits m).mandates[place]? = some own ∧ own.command = mandate.command ∧ own.story = before := by
        intro old rest stood same split
        rw [same]
        obtain ⟨m, earlier, moment⟩ := ih stood split
        exact ⟨m, Nat.lt_succ_of_lt earlier, moment⟩
      rcases (passage.moves n).stood stands with old | new | ⟨told, own, proceeds, stood, step, same, grown⟩
      · exact onward old rfl story
      · rw [new] at story
        simp [Mandate.begun] at story
      · rw [story] at grown
        rcases step.single with rfl | ⟨last, rfl⟩
        · exact onward stood same (by rw [grown, List.append_nil])
        · -- Either the exchange is the one that was told last, or it had been told before.
          rcases List.eq_nil_or_concat after with rfl | ⟨rest, other, rfl⟩
          · obtain ⟨rfl, is⟩ := List.append_inj' grown rfl
            obtain rfl := List.singleton_inj.mp is
            exact ⟨n, n.lt_succ_self, proceeds, own, stood, same.symm, rfl⟩
          · have split : (before ++ exchange :: rest) ++ [other] = own.story ++ [last] := by simpa using grown
            exact onward stood same (List.append_inj' split rfl).1.symm

/-- What was told of a command after something else was told at some moment after that. -/
theorem since_told (stands : (visits n).mandates[place]? = some mandate)
    (told : (before ++ [exchange]).Sublist mandate.story) :
    ∃ m < n, (visits m).Proceeds place [exchange] (visits (m + 1)) ∧
      ∃ own, (visits m).mandates[place]? = some own ∧ before.Sublist own.story := by
  obtain ⟨front, back, split, within, last⟩ := List.append_sublist_iff.mp told
  obtain ⟨middle, rest, rfl⟩ := List.append_of_mem (List.singleton_sublist.mp last)
  rw [← List.append_assoc] at split
  obtain ⟨m, earlier, proceeds, own, stood, -, story⟩ := passage.moment stands split
  exact ⟨m, earlier, proceeds, own, stood, story ▸ within.trans (List.sublist_append_left front middle)⟩

theorem since_tells {first : Exchange} (stands : (visits n).mandates[place]? = some mandate)
    (told : [first, exchange].Sublist mandate.story) :
    ∃ m < n, (visits m).Proceeds place [exchange] (visits (m + 1)) ∧ (visits m).Tells place first := by
  obtain ⟨m, earlier, proceeds, own, stood, within⟩ :=
    passage.since_told stands (show ([first] ++ [exchange]).Sublist mandate.story from told)
  exact ⟨m, earlier, proceeds, own, stood, List.singleton_sublist.mp within⟩

theorem whenTold (stands : (visits n).mandates[place]? = some mandate) (told : exchange ∈ mandate.story) :
    ∃ m < n, (visits m).Proceeds place [exchange] (visits (m + 1)) := by
  obtain ⟨before, after, split⟩ := List.append_of_mem told
  obtain ⟨m, earlier, proceeds, -⟩ := passage.moment stands split
  exact ⟨m, earlier, proceeds⟩

theorem next_precedes (n : Nat) : (visits n).stage.Precedes (visits (n + 1)).stage := by
  have moves := passage.moves n
  have all : ∀ {place : Nat} {mandate : Mandate}, (visits n).mandates[place]? = some mandate →
      Steps (receive timings mandate.command) mandate.story mandate.flow := passage.steps
  generalize visits n = visit at moves all
  generalize visits (n + 1) = later at moves
  cases moves with
  | drift drifts => exact drifts.precedes
  | begin command => exact .refl _
  | proceed proceeds =>
      obtain ⟨mandate, flow, stands, step, follows, -⟩ := proceeds
      obtain ⟨confined, -⟩ := (all stands).confined (keepsFound_receive timings mandate.command)
      have keeps := (step.confined confined).2
      rcases step.single with rfl | ⟨exchange, rfl⟩
      · exact (show visit.stage = later.stage from follows) ▸ .refl _
      · obtain ⟨_, _, rfl, replied, rfl⟩ := follows
        exact replied.precedes (keeps exchange List.mem_cons_self)

theorem since {m : Nat} (earlier : m ≤ n) : (visits m).stage.Precedes (visits n).stage := by
  induction earlier with
  | refl => exact .refl _
  | step _ ih => exact ih.trans (passage.next_precedes _)

end Passage

/-! ## Passages that begin with runs -/

end Visit

/-- A world after some commands, one after the other. -/
def World.obey (timings : Timings) (world : World) (commands : List Inbound) : World :=
  commands.foldl (fun world command => ((receive timings command).run world).2) world

namespace Visit

def LeadsTo (timings : Timings) : Visit → Visit → Prop := Relation.ReflTransGen (Moves timings)

namespace LeadsTo

variable {timings : Timings} {first middle visit : Visit}

theorem step (leads : first.LeadsTo timings middle) (moves : middle.Moves timings visit) :
    first.LeadsTo timings visit := .tail leads moves

theorem passage (idle : first.mandates = []) (leads : first.LeadsTo timings visit) :
    ∃ (visits : Nat → Visit) (n : Nat), Passage timings visits ∧ visits 0 = first ∧ visits n = visit := by
  have still : ∀ visit : Visit, visit.Moves timings visit := fun visit => .drift ⟨rfl, rfl, rfl, rfl⟩
  induction leads with
  | refl => exact ⟨fun _ => first, 0, ⟨idle, fun _ => still first⟩, rfl, rfl⟩
  | @tail _ last _ moves ih =>
      obtain ⟨visits, n, ⟨-, onward⟩, rfl, rfl⟩ := ih
      refine ⟨fun m => if m ≤ n then visits m else last, n + 1, ⟨idle, fun m => ?_⟩, rfl,
        if_neg (Nat.not_succ_le_self n)⟩
      rcases Nat.lt_trichotomy m n with less | rfl | more
      · simpa only [if_pos (Nat.le_of_lt less), if_pos (Nat.succ_le_of_lt less)] using onward m
      · simpa only [if_pos (Nat.le_refl m), if_neg (Nat.not_succ_le_self m)] using moves
      · have later : ¬m ≤ n := Nat.not_le.mpr more
        have after : ¬m + 1 ≤ n := fun less => later (Nat.le_of_succ_le less)
        simpa only [if_neg later, if_neg after] using still last

/-- A command that goes on by itself, as the stage follows it. -/
theorem enact {command : Inbound} {flow after : Flow Unit} {story : List Exchange} (steps : Steps flow story after)
    (ahead : List Mandate) : ∀ {before later : Stage} {told : List Exchange}, before.Follows Eq story later →
      first.LeadsTo timings ⟨before, ahead ++ [⟨command, told, flow⟩]⟩ →
        first.LeadsTo timings ⟨later, ahead ++ [⟨command, told ++ story, after⟩]⟩ := by
  induction steps with
  | refl =>
      rintro before later told rfl leads
      rwa [List.append_nil]
  | @head flow between after told story step _ ih =>
      intro before later past follows leads
      have proceeds : ∀ {middle : Stage}, before.Follows Eq told middle →
          Moves timings ⟨before, ahead ++ [⟨command, past, flow⟩]⟩
            ⟨middle, ahead ++ [⟨command, past ++ told, between⟩]⟩ := fun replied =>
        .proceed ⟨⟨command, past, flow⟩, between, List.getElem?_concat_length, step, replied, by simp⟩
      rw [← List.append_assoc]
      rcases step.single with rfl | ⟨exchange, rfl⟩
      · exact ih follows (leads.step (proceeds rfl))
      · obtain ⟨_, middle, rfl, replied, onward⟩ := follows
        exact ih onward (leads.step (proceeds ⟨before, middle, rfl, replied, rfl⟩))

/-- A command that is run while others may be carried out. -/
theorem run {world : World} {mandates : List Mandate} (leads : first.LeadsTo timings ⟨world.stage, mandates⟩)
    (command : Inbound) : ∃ story, world.stage.Follows Eq story ((receive timings command).run world).2.stage ∧
      first.LeadsTo timings ⟨((receive timings command).run world).2.stage,
        mandates ++ [⟨command, story, ((receive timings command).run world).1⟩]⟩ := by
  obtain ⟨story, steps, follows⟩ := (receive timings command).run_enacts world
  exact ⟨story, follows, enact steps mandates follows (leads.step (.begin command))⟩

theorem obey {world : World} {mandates : List Mandate} (leads : first.LeadsTo timings ⟨world.stage, mandates⟩)
    (commands : List Inbound) : ∃ more, first.LeadsTo timings ⟨(world.obey timings commands).stage, more⟩ := by
  induction commands generalizing world mandates with
  | nil => exact ⟨mandates, leads⟩
  | cons command rest ih =>
      obtain ⟨_, -, onward⟩ := leads.run command
      exact ih onward

end LeadsTo

end Visit

end ConsentBanner

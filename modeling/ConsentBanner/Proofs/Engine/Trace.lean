import ConsentBanner.Proofs.Engine.Roster
import ConsentBanner.Proofs.Engine.Terms
import ConsentBanner.Proofs.Lists

/-!
# What messages and journal tell

The first dialog that was confirmed is the one that is kept, reported first and acted upon; what was
reported and done is in the right order.  `Ledger.Sound` says so of a ledger and `Lawful` of a change:
each step of the engine keeps ledgers sound, takes nothing back and never gives up the confirmed
handler.

An account is what messages and journal say of one thing only: the calls of one routine of one handler, what was done
about dialogs, which platforms were reported and what became of a decision.  Each account changes with
the entries that it is about and with nothing else.
-/

set_option autoImplicit false

namespace ConsentBanner

open Ledger (Quiet)

/-- Routines that do something about a dialog. -/
def Routine.acts : Routine → Bool
  | .detect | .popup => false
  | _ => true

/-- What a handler is known by in the journal and in messages. -/
def Handler.badge (handler : Handler) : Nat × String := (handler.slot, handler.name)

def HandlerCall.badge (call : HandlerCall) : Nat × String := (call.slot, call.name)

/-- The handler whose dialog shows according to an entry of the journal. -/
def JournalEntry.confirmed? : JournalEntry → Option (Nat × String)
  | ⟨⟨slot, name, .popup⟩, .came true⟩ => some (slot, name)
  | _ => none

namespace Outbound

/-- The handler whose dialog shows according to a message. -/
def popup? : Outbound → Option String
  | .popupFound cmp _ => some cmp
  | _ => none

/-- A message is the report of a successful decision. -/
def Succeeds (cmp url : String) (message : Outbound) : Prop :=
  ∃ selfTest, message = .optOutResult cmp true selfTest url ∨ message = .optInResult cmp true selfTest url

end Outbound

/-- The handlers whose dialogs were confirmed, in order. -/
def confirmations (journal : List JournalEntry) : List (Nat × String) :=
  journal.filterMap JournalEntry.confirmed?

/-- The names in the reports of dialogs, in order. -/
def popups (sent : List Outbound) : List String := sent.filterMap Outbound.popup?

/-- Before a dialog is reported its platform was. -/
def Announced (sent : List Outbound) : Prop :=
  Throughout (fun before message => ∀ cmp url, message = .popupFound cmp url →
    ∃ address, .cmpDetected address cmp ∈ before) sent

/-- A page is complete right after the report of a successful decision, and only then. -/
def Concluded (sent : List Outbound) : Prop :=
  Throughout (fun before message => ∀ cmp url, message = .autoconsentDone cmp url →
    ∃ report ∈ before.getLast?, report.Succeeds cmp url) sent

/-- Only the handler whose dialog was confirmed first does something about its dialog. -/
def Rightful (journal : List JournalEntry) : Prop :=
  Throughout (fun before entry => entry.call.routine.acts = true →
    (confirmations before).head? = some entry.call.badge) journal

def Ledger.confirm (ledger : Ledger) (handler : Handler) (url : String) : Ledger :=
  ((ledger.record ⟨handler.call .popup, .came true⟩).update fun state =>
    state.confirm handler).send (.popupFound handler.name url)

theorem Ledger.found_confirm (ledger : Ledger) (handler : Handler) (url : String) :
    (ledger.confirm handler url).engine.found = some (ledger.engine.found.getD handler) :=
  EngineState.found_confirm ledger.engine handler

/-- Engine, messages and journal agree. -/
structure Ledger.Sound (ledger : Ledger) : Prop where
  /-- The confirmed handler is the first in the journal. -/
  held : ledger.engine.found.map Handler.badge = (confirmations ledger.journal).head?
  told : popups ledger.sent = (confirmations ledger.journal).map Prod.snd
  announced : Announced ledger.sent
  concluded : Concluded ledger.sent
  rightful : Rightful ledger.journal

/-- The engine has not done anything on the page yet.  Any handlers may take part. -/
structure Ledger.IsFresh (ledger : Ledger) : Prop where
  found : ledger.engine.found = none
  sent : ledger.sent = []
  journal : ledger.journal = []

theorem Ledger.IsFresh.sound {ledger : Ledger} (fresh : ledger.IsFresh) : ledger.Sound := by
  refine ⟨?_, ?_, ?_, ?_, ?_⟩
  · rw [fresh.found, fresh.journal]
    rfl
  · rw [fresh.sent, fresh.journal]
    rfl
  · rw [Announced, fresh.sent]
    exact Throughout.nil
  · rw [Concluded, fresh.sent]
    exact Throughout.nil
  · rw [Rightful, fresh.journal]
    exact Throughout.nil

/-- A change that keeps ledgers sound, takes nothing back and does not give up the confirmed handler. -/
structure Lawful (before after : Ledger) : Prop where
  sound : before.Sound → after.Sound
  stays : ∀ handler, before.engine.found = some handler → after.engine.found = some handler
  sent : before.sent <+: after.sent
  journal : before.journal <+: after.journal

namespace Lawful

theorem refl (ledger : Ledger) : Lawful ledger ledger :=
  ⟨id, fun _ => id, List.prefix_rfl, List.prefix_rfl⟩

theorem trans {a b c : Ledger} (first : Lawful a b) (second : Lawful b c) : Lawful a c :=
  ⟨fun sound => second.sound (first.sound sound), fun h held => second.stays h (first.stays h held),
    first.sent.trans second.sent, first.journal.trans second.journal⟩

theorem quiet {before after : Ledger} (quiet : Quiet before after) : Lawful before after := by
  obtain ⟨engine, journal, asked, sent⟩ := quiet
  refine ⟨fun sound => ?_, fun h held => engine ▸ held, sent ▸ List.prefix_append _ _,
    journal ▸ List.prefix_rfl⟩
  have asks : ∀ before message after,
      asked.map (fun request => Outbound.evalRequest request.1 request.2) = before ++ message :: after →
        ∃ id code, message = .evalRequest id code := by
    intro before message after split
    have member : message ∈ asked.map fun request => Outbound.evalRequest request.1 request.2 := by
      simp [split]
    obtain ⟨request, _, rfl⟩ := List.mem_map.mp member
    exact ⟨_, _, rfl⟩
  refine ⟨by rw [engine, journal]; exact sound.held, ?_, ?_, ?_, by rw [journal]; exact sound.rightful⟩
  · have none : popups (asked.map fun request => .evalRequest request.1 request.2) = [] := by
      simp [popups, List.filterMap_map, Outbound.popup?, Function.comp_def]
    rw [journal, sent, popups, List.filterMap_append]
    change popups before.sent ++ popups _ = _
    rw [none, List.append_nil, sound.told]
  · rw [Announced, sent]
    refine Throughout.append sound.announced fun ahead message behind split cmp url is => ?_
    obtain ⟨id, code, rfl⟩ := asks _ _ _ split
    cases is
  · rw [Concluded, sent]
    refine Throughout.append sound.concluded fun ahead message behind split cmp url is => ?_
    obtain ⟨id, code, rfl⟩ := asks _ _ _ split
    cases is

theorem send {ledger : Ledger} {message : Outbound} (noPopup : message.popup? = none)
    (notDone : ∀ cmp url, message ≠ .autoconsentDone cmp url) : Lawful ledger (ledger.send message) := by
  refine ⟨fun sound => ⟨sound.held, ?_, ?_, ?_, sound.rightful⟩, fun _ => id, List.prefix_append _ _,
    List.prefix_rfl⟩
  · simp only [Ledger.send, popups, List.filterMap_append, List.filterMap_cons, noPopup,
      List.filterMap_nil, List.append_nil]
    exact sound.told
  · refine Throughout.snoc sound.announced fun cmp url is => ?_
    subst is
    cases noPopup
  · exact Throughout.snoc sound.concluded fun cmp url is => absurd is (notDone cmp url)

/-- A change of the engine that does not concern the confirmed handler. -/
theorem update {ledger : Ledger} {change : EngineState → EngineState}
    (same : (change ledger.engine).found = ledger.engine.found) :
    Lawful ledger (ledger.update change) := by
  refine ⟨fun sound => ⟨?_, sound.told, sound.announced, sound.concluded, sound.rightful⟩,
    fun _ held => same.trans held, List.prefix_rfl, List.prefix_rfl⟩
  simp only [Ledger.update, same]
  exact sound.held

/-- An entry that confirms nothing; whoever acts must be the confirmed handler. -/
theorem record {ledger : Ledger} {entry : JournalEntry} (unconfirmed : entry.confirmed? = none)
    (rightful : entry.call.routine.acts = true →
      ledger.engine.found.map Handler.badge = some entry.call.badge) :
    Lawful ledger (ledger.record entry) := by
  have same : confirmations (ledger.journal ++ [entry]) = confirmations ledger.journal := by
    simp [confirmations, unconfirmed]
  refine ⟨fun sound => ⟨?_, ?_, sound.announced, sound.concluded, ?_⟩, fun _ => id, List.prefix_rfl,
    List.prefix_append _ _⟩
  · simp only [Ledger.record, same]
    exact sound.held
  · simp only [Ledger.record, same]
    exact sound.told
  · exact Throughout.snoc sound.rightful fun acts => sound.held.symm.trans (rightful acts)

/-- The dialog of a handler shows. -/
theorem confirm {ledger : Ledger} {handler : Handler} {url address : String}
    (announced : .cmpDetected address handler.name ∈ ledger.sent) :
    Lawful ledger (ledger.confirm handler url) := by
  have more : confirmations (ledger.journal ++ [⟨handler.call .popup, .came true⟩]) =
      confirmations ledger.journal ++ [handler.badge] := by
    simp [confirmations, Handler.call, JournalEntry.confirmed?, Handler.badge]
  refine ⟨fun sound => ⟨?_, ?_, ?_, ?_, ?_⟩, ?_, List.prefix_append _ _, List.prefix_append _ _⟩
  · rw [Ledger.found_confirm]
    simp only [Ledger.confirm, Ledger.send, Ledger.update, Ledger.record, more]
    rw [List.head?_append, ← sound.held]
    cases ledger.engine.found <;> rfl
  · have told := sound.told
    simp only [popups] at told
    simp [Ledger.confirm, Ledger.send, Ledger.update, Ledger.record, more, popups, told, Outbound.popup?,
      Handler.badge]
  · refine Throughout.snoc sound.announced fun cmp url is => ?_
    obtain ⟨rfl, -⟩ := Outbound.popupFound.inj is
    exact ⟨address, announced⟩
  · exact Throughout.snoc sound.concluded fun cmp url is => by cases is
  · exact Throughout.snoc sound.rightful fun acts => by cases acts
  · intro first held
    rw [Ledger.found_confirm, held]
    rfl

/-- A successful decision completes the page. -/
theorem conclude {ledger : Ledger} {report : Outbound} {cmp url : String}
    (last : ledger.sent.getLast? = some report) (succeeds : report.Succeeds cmp url) :
    Lawful ledger (ledger.send (.autoconsentDone cmp url)) := by
  refine ⟨fun sound => ⟨sound.held, ?_, ?_, ?_, sound.rightful⟩, fun _ => id, List.prefix_append _ _,
    List.prefix_rfl⟩
  · have told := sound.told
    simp only [popups] at told
    simp [Ledger.send, popups, told, Outbound.popup?]
  · exact Throughout.snoc sound.announced fun cmp url is => by cases is
  · refine Throughout.snoc sound.concluded fun name address is => ?_
    obtain ⟨rfl, rfl⟩ := Outbound.autoconsentDone.inj is
    exact ⟨report, last, succeeds⟩

end Lawful

/-! ## Accounts of a ledger -/

/-- The platform that a message reports. -/
def Outbound.detected? : Outbound → Option String
  | .cmpDetected _ cmp => some cmp
  | _ => none

/-- A message is about a decision or a self test. -/
def Outbound.isVerdict : Outbound → Bool
  | .optOutResult _ _ _ _ | .optInResult _ _ _ _ | .selfTestResult _ _ _ | .autoconsentDone _ _ => true
  | _ => false

namespace Ledger

/-- The names in the reports of platforms, in order. -/
def detections (ledger : Ledger) : List String := ledger.sent.filterMap Outbound.detected?

/-- All messages about decisions and self tests, in order. -/
def verdicts (ledger : Ledger) : List Outbound := ledger.sent.filter Outbound.isVerdict

/-- What was done about dialogs, in order. -/
def deeds (ledger : Ledger) : List JournalEntry :=
  ledger.journal.filter fun entry => entry.call.routine.acts

/-- All entries about one routine of one handler, in order. -/
def entriesOf (ledger : Ledger) (call : HandlerCall) : List JournalEntry :=
  ledger.journal.filter fun entry => entry.call = call

variable (ledger : Ledger) (call : HandlerCall) (change : EngineState → EngineState)

@[simp] theorem detections_update : (ledger.update change).detections = ledger.detections := rfl

@[simp] theorem verdicts_update : (ledger.update change).verdicts = ledger.verdicts := rfl

@[simp] theorem deeds_update : (ledger.update change).deeds = ledger.deeds := rfl

@[simp] theorem entriesOf_update : (ledger.update change).entriesOf call = ledger.entriesOf call := rfl

@[simp] theorem deeds_send (message : Outbound) : (ledger.send message).deeds = ledger.deeds := rfl

@[simp] theorem entriesOf_send (message : Outbound) :
    (ledger.send message).entriesOf call = ledger.entriesOf call := rfl

@[simp] theorem detections_record (entry : JournalEntry) :
    (ledger.record entry).detections = ledger.detections := rfl

@[simp] theorem verdicts_record (entry : JournalEntry) :
    (ledger.record entry).verdicts = ledger.verdicts := rfl

theorem detections_send (message : Outbound) :
    (ledger.send message).detections = ledger.detections ++ message.detected?.toList := by
  cases found : message.detected? <;> simp [send, detections, found]

theorem verdicts_send (message : Outbound) : (ledger.send message).verdicts =
    ledger.verdicts ++ if message.isVerdict then [message] else [] := by
  cases is : message.isVerdict <;> simp [send, verdicts, is]

theorem deeds_record (entry : JournalEntry) : (ledger.record entry).deeds =
    ledger.deeds ++ if entry.call.routine.acts then [entry] else [] := by
  cases acts : entry.call.routine.acts <;> simp [record, deeds, acts]

theorem entriesOf_record (entry : JournalEntry) : (ledger.record entry).entriesOf call =
    ledger.entriesOf call ++ if entry.call = call then [entry] else [] := by
  by_cases is : entry.call = call <;> simp [record, entriesOf, is]

/-- Quiet changes are on no account. -/
structure SameAccounts (before after : Ledger) : Prop where
  detections : after.detections = before.detections
  verdicts : after.verdicts = before.verdicts
  deeds : after.deeds = before.deeds
  entriesOf : ∀ call, after.entriesOf call = before.entriesOf call

theorem Quiet.sameAccounts {before after : Ledger} (quiet : Quiet before after) :
    SameAccounts before after := by
  obtain ⟨-, journal, asked, sent⟩ := quiet
  refine ⟨?_, ?_, by simp [Ledger.deeds, journal], by simp [Ledger.entriesOf, journal]⟩
  · simp [Ledger.detections, sent, List.filterMap_map, Outbound.detected?, Function.comp_def]
  · have none : (asked.map fun request => Outbound.evalRequest request.1 request.2).filter
        Outbound.isVerdict = [] := by
      rw [List.filter_eq_nil_iff]
      intro message member
      obtain ⟨request, -, rfl⟩ := List.mem_map.mp member
      exact Bool.false_ne_true
    rw [Ledger.verdicts, sent, List.filter_append, none, List.append_nil]
    rfl

end Ledger

end ConsentBanner

import ConsentBanner.Proofs.Engine.Trace
import ConsentBanner.Proofs.Engine.Detection

/-!
# The race of the candidates

Every candidate is waited for in a lane of its own, and the first whose dialog shows starts the
decision.  Lanes and decision keep apart: a lane writes about its own handler only, the decision about no
dialog.  So each lane is known to its end by its own entries, and so is the decision.
-/

set_option autoImplicit false

namespace ConsentBanner.Engine

open Ledger (Quiet)
open Part (Keeps)

structure LaneMayDo (handler : Handler) (before after : Ledger) : Prop where
  lawful : Lawful before after
  found : ∀ other, after.engine.found = some other →
    before.engine.found = some other ∨ other = handler
  phase : after.engine.phase = before.engine.phase
  detections : after.detections = before.detections
  verdicts : after.verdicts = before.verdicts
  deeds : after.deeds = before.deeds
  others : ∀ call, call ≠ handler.call .popup → after.entriesOf call = before.entriesOf call

structure LaneMayFind (handler : Handler) (before after : Ledger) : Prop where
  lawful : Lawful before after
  own : after.entriesOf (handler.call .popup) = before.entriesOf (handler.call .popup)

/-- What the decision may do. -/
structure LeadMayDo (before after : Ledger) : Prop where
  lawful : Lawful before after
  found : after.engine.found = before.engine.found
  detections : after.detections = before.detections
  popups : ∀ call, call.routine = .popup → after.entriesOf call = before.entriesOf call

/-- What the decision relies on. -/
structure LeadMayFind (before after : Ledger) : Prop where
  lawful : Lawful before after
  phase : after.engine.phase = before.engine.phase
  verdicts : after.verdicts = before.verdicts
  deeds : after.deeds = before.deeds

def laneTerms (handler : Handler) : Terms where
  rely := LaneMayFind handler
  guar := LaneMayDo handler
  rely_refl ledger := ⟨.refl ledger, rfl⟩
  rely_trans first second := ⟨first.lawful.trans second.lawful, second.own.trans first.own⟩
  guar_refl ledger := ⟨.refl ledger, fun _ => .inl, rfl, rfl, rfl, rfl, fun _ _ => rfl⟩
  guar_trans first second := by
    refine ⟨first.lawful.trans second.lawful, fun other held => ?_, second.phase.trans first.phase,
      second.detections.trans first.detections, second.verdicts.trans first.verdicts,
      second.deeds.trans first.deeds, fun call apart =>
        (second.others call apart).trans (first.others call apart)⟩
    exact (second.found other held).elim (first.found other) .inr
  quiet quiet := by
    have same := quiet.sameAccounts
    refine ⟨.quiet quiet, fun other held => .inl (quiet.engine ▸ held), by rw [quiet.engine],
      same.detections, same.verdicts, same.deeds, fun call _ => same.entriesOf call⟩

def leadTerms : Terms where
  rely := LeadMayFind
  guar := LeadMayDo
  rely_refl ledger := ⟨.refl ledger, rfl, rfl, rfl⟩
  rely_trans first second := ⟨first.lawful.trans second.lawful, second.phase.trans first.phase,
    second.verdicts.trans first.verdicts, second.deeds.trans first.deeds⟩
  guar_refl ledger := ⟨.refl ledger, rfl, rfl, fun _ _ => rfl⟩
  guar_trans first second := ⟨first.lawful.trans second.lawful, second.found.trans first.found,
    second.detections.trans first.detections, fun call popup =>
      (second.popups call popup).trans (first.popups call popup)⟩
  quiet quiet :=
    have same := quiet.sameAccounts
    ⟨.quiet quiet, by rw [quiet.engine], same.detections, fun call _ => same.entriesOf call⟩

theorem lane_beside_lane {one other : Handler} (apart : one.slot ≠ other.slot) {before after : Ledger}
    (did : LaneMayDo one before after) : LaneMayFind other before after :=
  ⟨did.lawful, did.others _ fun same => apart (congrArg HandlerCall.slot same).symm⟩

theorem lane_beside_lead {handler : Handler} {before after : Ledger}
    (did : LaneMayDo handler before after) : LeadMayFind before after :=
  ⟨did.lawful, did.phase, did.verdicts, did.deeds⟩

theorem lead_beside_lane {handler : Handler} {before after : Ledger} (did : LeadMayDo before after) :
    LaneMayFind handler before after :=
  ⟨did.lawful, did.popups _ rfl⟩

/-- The entries about attempts in vain to see the dialog of a handler. -/
def inVain (handler : Handler) : Nat → List JournalEntry
  | 0 => []
  | count + 1 =>
    inVain handler count ++ [⟨handler.call .popup, .begun⟩, ⟨handler.call .popup, .came false⟩]

/-- The entries about a dialog that showed after some attempts in vain. -/
def inTheEnd (handler : Handler) (count : Nat) : List JournalEntry :=
  inVain handler count ++ [⟨handler.call .popup, .begun⟩, ⟨handler.call .popup, .came true⟩]

/-- The lane of a candidate is known to its end. -/
def LaneEnds (timings : Timings) (handler : Handler) (yes : Bool) (ledger : Ledger) : Prop :=
  match yes with
  | true => (∃ count ≤ timings.popupRetries,
      ledger.entriesOf (handler.call .popup) = inTheEnd handler count) ∧ ledger.engine.found.isSome
  | false => ledger.entriesOf (handler.call .popup) = inVain handler (timings.popupRetries + 1)

theorem found_stays {before after : Ledger} (lawful : Lawful before after)
    (found : before.engine.found.isSome) : after.engine.found.isSome := by
  obtain ⟨handler, held⟩ := Option.isSome_iff_exists.mp found
  exact Option.isSome_iff_exists.mpr ⟨handler, lawful.stays handler held⟩

theorem LaneEnds.keeps {timings : Timings} {handler : Handler} (yes : Bool) :
    Keeps (laneTerms handler).rely (LaneEnds timings handler yes) := by
  intro before after ends found
  cases yes with
  | true =>
      obtain ⟨⟨count, within, entries⟩, held⟩ := ends
      exact ⟨⟨count, within, found.own.trans entries⟩, found_stays found.lawful held⟩
  | false => exact found.own.trans ends

/-- What a lane knows while it waits. -/
structure Waits (url : String) (handler : Handler) (entries : List JournalEntry) (ledger : Ledger) :
    Prop where
  announced : .cmpDetected url handler.name ∈ ledger.sent
  entries : ledger.entriesOf (handler.call .popup) = entries

theorem Waits.keeps {url : String} {handler : Handler} {entries : List JournalEntry} :
    Keeps (laneTerms handler).rely (Waits url handler entries) :=
  fun waits found => ⟨found.lawful.sent.subset waits.announced, found.own.trans waits.entries⟩

theorem laneMayDo_record (handler : Handler) (ledger : Ledger) (progress : Progress)
    (unconfirmed : progress ≠ .came true) :
    LaneMayDo handler ledger (ledger.record ⟨handler.call .popup, progress⟩) := by
  refine ⟨.record ?_ nofun, fun _ => .inl, rfl, rfl, rfl, ?_, fun call apart => ?_⟩
  · cases progress with
    | begun => rfl
    | came value => cases value <;> first | rfl | exact absurd rfl unconfirmed
  · simp [Ledger.deeds_record, Handler.call, Routine.acts]
  · simp [Ledger.entriesOf_record, Ne.symm apart]

theorem laneMayDo_confirm {handler : Handler} {url : String} {ledger : Ledger}
    (announced : .cmpDetected url handler.name ∈ ledger.sent) :
    LaneMayDo handler ledger (ledger.confirm handler url) := by
  refine ⟨.confirm announced, fun other held => ?_, ?_, ?_, ?_, ?_, fun call apart => ?_⟩
  · rw [Ledger.found_confirm] at held
    cases found : ledger.engine.found with
    | none => exact .inr (by simpa [found] using held.symm)
    | some first => exact .inl (by simpa [found] using held)
  · exact EngineState.phase_confirm ledger.engine handler
  · simp [Ledger.confirm, Ledger.detections_send, Outbound.detected?]
  · simp [Ledger.confirm, Ledger.verdicts_send, Outbound.isVerdict]
  · simp [Ledger.confirm, Ledger.deeds_record, Handler.call, Routine.acts]
  · simp [Ledger.confirm, Ledger.entriesOf_record, Ne.symm apart]

theorem awaits (handler : Handler) (url : String) :
    Terms.Awaits (laneTerms handler) handler url
      (fun vain => Waits url handler (inVain handler vain))
      (fun vain => Waits url handler (inVain handler vain ++ [⟨handler.call .popup, .begun⟩]))
      (fun vain now => now.entriesOf (handler.call .popup) = inTheEnd handler vain ∧
        now.engine.found.isSome) where
  waitsStable _ := Waits.keeps
  asksStable _ := Waits.keeps
  asksQuietly _ _ _ waits quiet := by
    obtain ⟨asked, sent⟩ := quiet.sent
    exact ⟨by simp [sent, waits.announced], (quiet.sameAccounts.entriesOf _).trans waits.entries⟩
  begun vain now waits := by
    refine ⟨laneMayDo_record handler now .begun nofun, waits.announced, ?_⟩
    simp [Ledger.entriesOf_record, waits.entries]
  came vain now asks := by
    refine ⟨laneMayDo_record handler now (.came false) nofun, asks.announced, ?_⟩
    simp [Ledger.entriesOf_record, asks.entries, inVain]
  confirms vain now asks := by
    refine ⟨laneMayDo_confirm asks.announced, ?_, ?_⟩
    · simp [Ledger.confirm, Ledger.entriesOf_record, asks.entries, inTheEnd]
    · rw [Ledger.found_confirm, Option.isSome_some]

/-- What is known of the decision while it is made: who was confirmed, what was done and what was
said. -/
structure Leads (handler : Handler) (deeds : List JournalEntry) (verdicts : List Outbound)
    (ledger : Ledger) : Prop where
  found : ledger.engine.found = some handler
  deeds : ledger.deeds = deeds
  verdicts : ledger.verdicts = verdicts

theorem Leads.keeps {handler : Handler} {deeds : List JournalEntry} {verdicts : List Outbound} :
    Keeps leadTerms.rely (Leads handler deeds verdicts) :=
  fun leads found => ⟨found.lawful.stays _ leads.found, found.deeds.trans leads.deeds,
    found.verdicts.trans leads.verdicts⟩

theorem Leads.quietly {handler : Handler} {deeds : List JournalEntry} {verdicts : List Outbound} :
    Keeps Quiet (Leads handler deeds verdicts) := by
  intro before after leads quiet
  have same := quiet.sameAccounts
  exact ⟨quiet.engine ▸ leads.found, same.deeds.trans leads.deeds, same.verdicts.trans leads.verdicts⟩

theorem leadMayDo_enter (ledger : Ledger) (phase : Phase) :
    LeadMayDo ledger (ledger.update fun state => { state with phase := phase }) :=
  ⟨.update rfl, rfl, rfl, fun _ _ => rfl⟩

theorem lead_enter {known : Ledger → Prop} (phase : Phase)
    (keeps : ∀ now, known now → known (now.update fun state => { state with phase := phase })) :
    leadTerms.Does known (enter phase) fun _ => known :=
  Terms.does_update fun now knows => ⟨leadMayDo_enter now phase, keeps now knows⟩

/-- The decision came to a value: what the confirmed handler did, what was reported, and whether the
page is complete. -/
structure Decided (decision : Decision) (handler : Handler) (value : Bool) (ledger : Ledger) : Prop where
  found : ledger.engine.found = some handler
  deeds : ledger.deeds =
    [⟨handler.call decision.routine, .begun⟩, ⟨handler.call decision.routine, .came value⟩]
  verdicts : ∃ url selfTest intermediate, ledger.verdicts =
    decision.report handler.name value (handler.traits.hasSelfTest selfTest) url ::
      if value && !handler.traits.isIntermediate intermediate then
        [.autoconsentDone handler.name url] else []
  phase : ledger.engine.phase = .done

theorem Decided.keeps {decision : Decision} {handler : Handler} (value : Bool) :
    Keeps leadTerms.rely (Decided decision handler value) :=
  fun decided found => ⟨found.lawful.stays _ decided.found, found.deeds.trans decided.deeds,
    found.verdicts ▸ decided.verdicts, found.phase.trans decided.phase⟩

theorem Decision.acts (decision : Decision) : decision.routine.acts = true := by
  cases decision <;> rfl

theorem leadMayDo_record {decision : Decision} {handler : Handler} {ledger : Ledger} (progress : Progress)
    (held : ledger.engine.found = some handler) :
    LeadMayDo ledger (ledger.record ⟨handler.call decision.routine, progress⟩) := by
  refine ⟨.record ?_ fun _ => by rw [held]; rfl, rfl, rfl, fun call popup => ?_⟩
  · cases decision <;> rfl
  · have apart : handler.call decision.routine ≠ call := by
      rintro rfl
      cases decision <;> cases popup
    simp [Ledger.entriesOf_record, apart]

def carriedOut (decision : Decision) (handler : Handler) (value : Bool) : List JournalEntry :=
  [⟨handler.call decision.routine, .begun⟩, ⟨handler.call decision.routine, .came value⟩]

theorem does_carryOut (timings : Timings) (decision : Decision) (handler : Handler) :
    leadTerms.Does (Leads handler [] []) (attempt timings (some handler) decision.routine) fun value =>
      Leads handler (carriedOut decision handler value) [] := by
  have acts : (handler.call decision.routine).routine.acts = true := decision.acts
  refine Terms.does_attempt (Leads handler [⟨handler.call decision.routine, .begun⟩] []) Leads.keeps Leads.quietly
    (fun now leads => ⟨leadMayDo_record _ leads.found, leads.found, ?_, leads.verdicts⟩)
    fun value now leads => ⟨leadMayDo_record _ leads.found, leads.found, ?_, leads.verdicts⟩
  · simp [Ledger.deeds_record, leads.deeds, acts]
  · simp [Ledger.deeds_record, leads.deeds, acts, carriedOut]

/-- A decision is reported, and nothing was said before. -/
theorem does_report (decision : Decision) {handler : Handler} {deeds : List JournalEntry} (value selfTest : Bool)
    (url : String) :
    leadTerms.Does (Leads handler deeds []) (Flow.send (decision.report handler.name value selfTest url))
      fun _ now => Leads handler deeds [decision.report handler.name value selfTest url] now ∧
        now.sent.getLast? = some (decision.report handler.name value selfTest url) := by
  refine Terms.does_send fun now leads => ?_
  generalize is : decision.report handler.name value selfTest url = report
  have plain : report.popup? = none ∧ report.detected? = none ∧ report.isVerdict = true ∧
      ∀ cmp url, report ≠ .autoconsentDone cmp url := by
    subst is
    cases decision <;> exact ⟨rfl, rfl, rfl, nofun⟩
  obtain ⟨noPopup, noPlatform, verdict, notDone⟩ := plain
  refine ⟨⟨.send noPopup notDone, rfl, ?_, fun _ _ => rfl⟩, ⟨leads.found, leads.deeds, ?_⟩, ?_⟩
  · simp [Ledger.detections_send, noPlatform]
  · simp [Ledger.verdicts_send, leads.verdicts, verdict]
  · simp [Ledger.send]

/-- The confirmed handler carries a decision out once, and that is reported once. -/
theorem does_execute (timings : Timings) (decision : Decision) (handler : Handler) :
    leadTerms.Does (Leads handler [] []) (execute timings decision) fun value now =>
      Decided decision handler value now := by
  refine Terms.Does.via (fun _ => Leads handler [] [])
    (lead_enter .executing fun now leads => ⟨leads.found, leads.deeds, leads.verdicts⟩) fun _ => ?_
  refine Terms.does_state.andThen fun state => ?_
  suffices rest : state.found = some handler → _ from
    Terms.Does.given (Terms.Does.fact rest) fun now known => ⟨known.2, known.1 ▸ known.2.found⟩
  intro found
  rw [found]
  refine (does_carryOut timings decision handler).andThen fun value => ?_
  refine (Terms.does_undoPrehide Leads.keeps).andThen fun _ => ?_
  refine (lead_enter .reporting fun now leads => ⟨leads.found, leads.deeds, leads.verdicts⟩).andThen
    fun _ => ?_
  refine (Terms.does_ask Leads.keeps).andThen fun url => ?_
  simp only [reportedName, holds]
  refine (Terms.does_hasSelfTest handler).andThen fun selfTest => Terms.Does.fact fun ⟨memory, tells⟩ => ?_
  let report := decision.report handler.name value selfTest url
  have ending : ∀ verdicts, (∃ intermediate, verdicts = report ::
      if value && !handler.traits.isIntermediate intermediate then
        [.autoconsentDone handler.name url] else []) →
      leadTerms.Does (Leads handler (carriedOut decision handler value) verdicts) (do enter .done; return value)
        fun value now => Decided decision handler value now := by
    rintro verdicts ⟨intermediate, rfl⟩
    refine Terms.Does.via (fun _ now => Decided decision handler value now)
      (Terms.does_update fun now leads => ⟨leadMayDo_enter now .done, leads.found, leads.deeds, ?_, rfl⟩)
      fun _ => Terms.does_pure fun _ => id
    exact ⟨url, memory, intermediate, by rw [← tells]; exact leads.verdicts⟩
  refine (does_report decision value selfTest url).andThen fun _ => ?_
  refine Terms.does_ite (fun success => ?_) fun failure => ?_
  · subst success
    refine Terms.Does.via (fun complete now => (Leads handler (carriedOut decision handler true) [report] now ∧
      now.sent.getLast? = some report) ∧ ∃ memory, complete = !handler.traits.isIntermediate memory)
      ?_ fun complete => Terms.Does.fact fun ⟨intermediate, tellsIt⟩ => ?_
    · refine (Terms.does_isIntermediate handler).andThen fun answer => Terms.does_pure ?_
      rintro now ⟨known, intermediate, rfl⟩
      exact ⟨known, intermediate, rfl⟩
    refine Terms.does_ite (fun isComplete => ?_) fun incomplete => ?_
    · have succeeds : report.Succeeds handler.name url := by
        cases decision with
        | optOut => exact ⟨selfTest, .inl rfl⟩
        | optIn => exact ⟨false, .inr rfl⟩
      refine Terms.Does.via
        (fun _ => Leads handler (carriedOut decision handler true) [report, .autoconsentDone handler.name url])
        (Terms.does_send fun now known => ?_) fun _ => ending _ ⟨intermediate, ?_⟩
      · obtain ⟨leads, last⟩ := known
        refine ⟨⟨.conclude last succeeds, rfl, ?_, fun _ _ => rfl⟩, leads.found, leads.deeds, ?_⟩
        · simp [Ledger.detections_send, Outbound.detected?]
        · simp [Ledger.verdicts_send, leads.verdicts, Outbound.isVerdict]
      · simp [← tellsIt, isComplete]
    · refine (ending [report] ⟨intermediate, ?_⟩).given fun now known => known.1
      simp [← tellsIt, incomplete]
  · refine (ending [report] ⟨.blank, ?_⟩).given fun now leads => leads.1
    simp [failure]

/-- The engine is done with the dialog of a handler, and came to a value. -/
def Acted (action : AutoAction) (handler : Handler) (value : Bool) (ledger : Ledger) : Prop :=
  match action with
  | .doNothing => Leads handler [] [] ledger ∧ ledger.engine.phase = .done ∧ value = true
  | .optOut => Decided .optOut handler value ledger
  | .optIn => Decided .optIn handler value ledger

theorem Acted.found {action : AutoAction} {handler : Handler} {value : Bool} {ledger : Ledger}
    (acted : Acted action handler value ledger) : ledger.engine.found = some handler := by
  cases action with
  | doNothing => exact acted.1.found
  | optOut => exact Decided.found acted
  | optIn => exact Decided.found acted

/-- The decision is known to its end. -/
def LeadEnds (action : AutoAction) (value : Bool) (ledger : Ledger) : Prop :=
  ∃ handler, Acted action handler value ledger

theorem LeadEnds.keeps {action : AutoAction} (value : Bool) :
    Keeps leadTerms.rely (LeadEnds action value) := by
  rintro before after ⟨handler, acted⟩ found
  cases action with
  | doNothing => exact ⟨handler, acted.1.keeps found, found.phase.trans acted.2.1, acted.2.2⟩
  | optOut => exact ⟨handler, Decided.keeps value acted found⟩
  | optIn => exact ⟨handler, Decided.keeps value acted found⟩

/-- The decision is made once, for the confirmed handler. -/
theorem does_decide (timings : Timings) (action : AutoAction) (handler : Handler) :
    leadTerms.Does (Leads handler [] []) (decide timings action) (Acted action handler) := by
  refine Terms.Does.via (fun _ => Leads handler [] [])
    (lead_enter .deciding fun now leads => ⟨leads.found, leads.deeds, leads.verdicts⟩) fun _ => ?_
  cases action with
  | optOut => exact does_execute timings .optOut handler
  | optIn => exact does_execute timings .optIn handler
  | doNothing =>
      refine Terms.Does.via (fun _ now => Leads handler [] [] now ∧ now.engine.phase = .done)
        (Terms.does_update fun now leads => ⟨leadMayDo_enter now .done,
          ⟨leads.found, leads.deeds, leads.verdicts⟩, rfl⟩) fun _ => Terms.does_pure fun now known => ?_
      exact ⟨known.1, known.2, rfl⟩

end ConsentBanner.Engine

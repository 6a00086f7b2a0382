import ConsentBanner.Proofs.Engine.Race
import ConsentBanner.Proofs.Flow.Turn
import Mathlib.Data.List.Nodup

/-!
# What one start comes to

If nobody else does anything, the engine detects, waits for every candidate, acts upon the first dialog
and comes back when all that is done.
-/

set_option autoImplicit false

namespace ConsentBanner

open Ledger (Quiet)
open Part (Keeps)

/-- The terms of a flow while nobody else does anything. -/
def Terms.alone : Terms where
  rely before after := before = after
  guar _ _ := True
  rely_refl _ := rfl
  rely_trans := Eq.trans
  guar_refl _ := trivial
  guar_trans _ _ := trivial
  quiet _ := trivial

theorem Terms.alone_keeps (known : Ledger → Prop) : Keeps Terms.alone.rely known :=
  fun knows same => same ▸ knows

/-- What a flow that is alone ends with. -/
theorem Terms.Does.ends {α : Type} {flow : Flow α} {before : Ledger → Prop} {after : α → Ledger → Prop}
    (does : Terms.alone.Does before flow after) {first last : Ledger} {value : α} (known : before first)
    (turns : Flow.Turns flow first (.done value) last) : after value last := by
  have holds : (Terms.alone.part after fun _ => Terms.alone_keeps _).Holds flow first :=
    does.holds (Terms.alone_keeps before) known
  exact (Terms.turns_keep turns holds).2.goal

namespace Engine

/-- What the engine does when it knows the candidates. -/
def react (timings : Timings) (action : AutoAction) (candidates : List Handler) : Flow Bool := do
  if candidates.isEmpty then giveUp .noneFound
  else
    let url ← Primitive.url
    Flow.each (fun handler => Flow.send (.cmpDetected url handler.name)) candidates
    enter .confirming
    .race (candidates.map (candidateLane timings url)) false (decide timings action)
      fun
        | none => giveUp .noPopup
        | some acted => pure acted

/-- Nothing was reported and nothing done about any dialog. -/
structure Untouched (ledger : Ledger) : Prop where
  sound : ledger.Sound
  found : ledger.engine.found = none
  detections : ledger.detections = []
  verdicts : ledger.verdicts = []
  deeds : ledger.deeds = []
  popups : ∀ call, call.routine = .popup → ledger.entriesOf call = []

theorem Untouched.quietly : Keeps Quiet Untouched := by
  intro before after untouched quiet
  have same := quiet.sameAccounts
  exact ⟨(Lawful.quiet quiet).sound untouched.sound, quiet.engine ▸ untouched.found,
    same.detections.trans untouched.detections, same.verdicts.trans untouched.verdicts,
    same.deeds.trans untouched.deeds, fun call popup =>
      (same.entriesOf call).trans (untouched.popups call popup)⟩

def wasSeen (ledger : Ledger) (handler : Handler) : Bool :=
  (confirmations ledger.journal).contains handler.badge

/-- All platforms were reported, in order and before any dialog. -/
def Reported (candidates : List Handler) (sent : List Outbound) : Prop :=
  ∃ url before after, sent = before ++ candidates.map (fun handler => .cmpDetected url handler.name) ++ after ∧
    (before ++ after).filterMap Outbound.detected? = [] ∧ popups before = [] ∧
    before.filter Outbound.isVerdict = []

/-- Every candidate was waited for to the end, and every dialog that showed was reported once. -/
structure Raced (timings : Timings) (candidates : List Handler) (ledger : Ledger) : Prop where
  reported : Reported candidates ledger.sent
  waited : ∀ handler ∈ candidates, LaneEnds timings handler (wasSeen ledger handler) ledger
  others : ∀ call, call.routine = .popup → (∀ handler ∈ candidates, call ≠ handler.call .popup) →
    ledger.entriesOf call = []
  confirmed : (confirmations ledger.journal).Perm
    ((candidates.filter (wasSeen ledger)).map Handler.badge)
  told : popups ledger.sent = (confirmations ledger.journal).map Prod.snd

theorem confirmed?_eq_some (entry : JournalEntry) (slot : Nat) (name : String) :
    entry.confirmed? = some (slot, name) ↔ entry = ⟨⟨slot, name, .popup⟩, .came true⟩ := by
  obtain ⟨⟨slot', name', routine⟩, progress⟩ := entry
  cases routine <;> cases progress with
  | begun => simp [JournalEntry.confirmed?]
  | came value => cases value <;> simp [JournalEntry.confirmed?]

theorem count_confirmations (ledger : Ledger) (slot : Nat) (name : String) :
    (confirmations ledger.journal).count (slot, name) =
      (ledger.entriesOf ⟨slot, name, .popup⟩).count ⟨⟨slot, name, .popup⟩, .came true⟩ := by
  rw [confirmations, List.count_filterMap, Ledger.entriesOf, List.count_filter (by simp), List.count]
  refine List.countP_congr fun entry _ => ?_
  simp [confirmed?_eq_some]

theorem count_inVain (handler : Handler) (vain : Nat) :
    (inVain handler vain).count ⟨handler.call .popup, .came true⟩ = 0 := by
  induction vain with
  | zero => rfl
  | succ vain ih => simp [inVain, ih]

theorem LaneEnds.count {timings : Timings} {handler : Handler} {yes : Bool} {ledger : Ledger}
    (ends : LaneEnds timings handler yes ledger) :
    (confirmations ledger.journal).count handler.badge = if yes then 1 else 0 := by
  have counted := count_confirmations ledger handler.slot handler.name
  change (confirmations ledger.journal).count handler.badge =
    (ledger.entriesOf (handler.call .popup)).count ⟨handler.call .popup, .came true⟩ at counted
  cases yes with
  | true =>
      obtain ⟨⟨vain, -, entries⟩, -⟩ := ends
      rw [counted, entries, inTheEnd, List.count_append, count_inVain]
      simp
  | false => rw [counted, ends, count_inVain]; rfl

theorem LaneEnds.seen {timings : Timings} {handler : Handler} {yes : Bool} {ledger : Ledger}
    (ends : LaneEnds timings handler yes ledger) : wasSeen ledger handler = yes := by
  have counted := ends.count
  rw [wasSeen, Bool.eq_iff_iff, List.contains_iff_mem, ← List.count_pos_iff, counted]
  cases yes <;> simp

theorem badges_nodup {candidates : List Handler} (apart : (candidates.map Handler.slot).Nodup) :
    (candidates.map Handler.badge).Nodup := by
  refine List.Nodup.of_map Prod.fst ?_
  rw [List.map_map]
  exact apart

/-- The dialogs that were confirmed are those that were seen in the end. -/
theorem confirmed_perm {timings : Timings} {candidates : List Handler} {ledger : Ledger}
    (apart : (candidates.map Handler.slot).Nodup)
    (waited : ∀ handler ∈ candidates, ∃ yes, LaneEnds timings handler yes ledger)
    (others : ∀ call, call.routine = .popup → (∀ handler ∈ candidates, call ≠ handler.call .popup) →
      ledger.entriesOf call = []) :
    (confirmations ledger.journal).Perm ((candidates.filter (wasSeen ledger)).map Handler.badge) := by
  have distinct : ((candidates.filter (wasSeen ledger)).map Handler.badge).Nodup :=
    (badges_nodup apart).sublist (List.filter_sublist.map Handler.badge)
  refine List.perm_iff_count.mpr fun badge => ?_
  rw [distinct.count]
  by_cases known : ∃ handler ∈ candidates, handler.badge = badge
  · obtain ⟨handler, member, rfl⟩ := known
    obtain ⟨yes, ends⟩ := waited handler member
    rw [ends.count]
    have seen : handler.badge ∈ (candidates.filter (wasSeen ledger)).map Handler.badge ↔ yes = true := by
      rw [← ends.seen, List.mem_map]
      constructor
      · rintro ⟨other, within, same⟩
        rw [wasSeen, ← same]
        exact (List.mem_filter.mp within).2
      · exact fun isSeen => ⟨handler, List.mem_filter.mpr ⟨member, isSeen⟩, rfl⟩
    simp only [seen]
  · have unknown : badge ∉ (candidates.filter (wasSeen ledger)).map Handler.badge := by
      intro within
      obtain ⟨handler, member, is⟩ := List.mem_map.mp within
      exact known ⟨handler, (List.mem_filter.mp member).1, is⟩
    have counted := count_confirmations ledger badge.1 badge.2
    rw [others ⟨badge.1, badge.2, .popup⟩ rfl ?_] at counted
    · rw [if_neg unknown, counted]
      rfl
    · rintro handler member same
      obtain ⟨slot, name, -⟩ := HandlerCall.mk.inj same
      exact known ⟨handler, member, Prod.ext slot.symm name.symm⟩

/-- Nothing was found: nothing is reported but that. -/
structure NothingFound (result : Bool) (ledger : Ledger) : Prop where
  untouched : Untouched ledger
  popups : popups ledger.sent = []
  phase : ledger.engine.phase = .noneFound
  result : result = false

/-- No dialog showed. -/
structure NothingShown (result : Bool) (ledger : Ledger) : Prop where
  found : ledger.engine.found = none
  deeds : ledger.deeds = []
  verdicts : ledger.verdicts = []
  phase : ledger.engine.phase = .noPopup
  result : result = false

/-- The engine acted upon the dialog of the candidate that was confirmed first. -/
def ActedUpon (action : AutoAction) (candidates : List Handler) (result : Bool) (ledger : Ledger) : Prop :=
  ∃ handler ∈ candidates, (confirmations ledger.journal).head? = some handler.badge ∧
    Acted action handler result ledger

/-- What a start comes to when it knows its candidates. -/
def Reacted (timings : Timings) (action : AutoAction) (candidates : List Handler) (result : Bool)
    (ledger : Ledger) : Prop :=
  if candidates = [] then NothingFound result ledger
  else Raced timings candidates ledger ∧
    if candidates.any (wasSeen ledger) then ActedUpon action candidates result ledger
    else NothingShown result ledger

/-- What is known all through the race. -/
structure Racing (candidates : List Handler) (start now : Ledger) : Prop where
  lawful : Lawful start now
  found : ∀ handler, now.engine.found = some handler → handler ∈ candidates
  detections : now.detections = start.detections
  others : ∀ call, call.routine = .popup → (∀ handler ∈ candidates, call ≠ handler.call .popup) →
    now.entriesOf call = []

theorem Racing.lane {candidates : List Handler} {start : Ledger} {handler : Handler}
    (member : handler ∈ candidates) : Keeps (LaneMayDo handler) (Racing candidates start) := by
  intro before after racing did
  refine ⟨racing.lawful.trans did.lawful, fun other held => ?_, did.detections.trans racing.detections,
    fun call popup apart => (did.others call (apart handler member)).trans (racing.others call popup apart)⟩
  rcases did.found other held with old | rfl
  · exact racing.found other old
  · exact member

theorem Racing.lead {candidates : List Handler} {start : Ledger} :
    Keeps LeadMayDo (Racing candidates start) :=
  fun racing did => ⟨racing.lawful.trans did.lawful, did.found ▸ racing.found,
    did.detections.trans racing.detections, fun call popup apart =>
      (did.popups call popup).trans (racing.others call popup apart)⟩

def lanePart (timings : Timings) (handler : Handler) : Part Bool :=
  (laneTerms handler).part (LaneEnds timings handler) LaneEnds.keeps

def leadPart (action : AutoAction) : Part Bool := leadTerms.part (LeadEnds action) LeadEnds.keeps

theorem race (timings : Timings) (action : AutoAction) {candidates : List Handler} (start : Ledger)
    (apart : (candidates.map Handler.slot).Nodup) :
    Part.Race Terms.alone.rely Terms.alone.guar (Racing candidates start) (leadPart action)
      (candidates.map (lanePart timings)) where
  within part _ := ⟨fun same => same ▸ part.rely_refl _, fun _ => trivial⟩
  beside := by
    refine List.pairwise_cons.mpr ⟨fun part member => ?_, ?_⟩
    · obtain ⟨handler, -, rfl⟩ := List.mem_map.mp member
      exact ⟨lead_beside_lane, lane_beside_lead⟩
    · rw [List.pairwise_map]
      refine (List.pairwise_map.mp apart).imp fun distinct => ?_
      exact ⟨lane_beside_lane distinct, lane_beside_lane (Ne.symm distinct)⟩
  knownRely knows same := same ▸ knows
  knownGuar part member := by
    rcases List.mem_cons.mp member with rfl | member
    · exact Racing.lead
    · obtain ⟨handler, within, rfl⟩ := List.mem_map.mp member
      exact Racing.lane within

/-- What is known while the platforms are reported. -/
structure Listed (url : String) (done : List Handler) (now : Ledger) : Prop where
  sound : now.Sound
  found : now.engine.found = none
  verdicts : now.verdicts = []
  deeds : now.deeds = []
  popups : ∀ call, call.routine = .popup → now.entriesOf call = []
  sent : ∃ before, now.sent = before ++ done.map (fun handler => .cmpDetected url handler.name) ∧
    before.filterMap Outbound.detected? = [] ∧ ConsentBanner.popups before = [] ∧
    before.filter Outbound.isVerdict = []

/-- Where nobody was confirmed, no dialog was reported. -/
theorem popups_nil {ledger : Ledger} (sound : ledger.Sound) (found : ledger.engine.found = none) :
    confirmations ledger.journal = [] ∧ popups ledger.sent = [] := by
  have none := sound.held
  rw [found] at none
  have empty := List.head?_eq_none_iff.mp none.symm
  exact ⟨empty, by rw [sound.told, empty]; rfl⟩

theorem Untouched.listed (url : String) {now : Ledger} (untouched : Untouched now) : Listed url [] now :=
  ⟨untouched.sound, untouched.found, untouched.verdicts, untouched.deeds, untouched.popups, now.sent,
    by simp, untouched.detections, (popups_nil untouched.sound untouched.found).2, untouched.verdicts⟩

theorem Listed.more {url : String} {done : List Handler} {now : Ledger} (listed : Listed url done now)
    (handler : Handler) : Listed url (done ++ [handler]) (now.send (.cmpDetected url handler.name)) := by
  obtain ⟨before, sent, rest⟩ := listed.sent
  refine ⟨(Lawful.send rfl (by simp)).sound listed.sound, listed.found, ?_, listed.deeds, listed.popups,
    before, ?_, rest⟩
  · simp [Ledger.verdicts_send, listed.verdicts, Outbound.isVerdict]
  · simp [Ledger.send, sent]

theorem Listed.enter {url : String} {done : List Handler} {now : Ledger} (listed : Listed url done now)
    (phase : Phase) : Listed url done (now.update fun state => { state with phase := phase }) :=
  ⟨(Lawful.update rfl).sound listed.sound, listed.found, listed.verdicts, listed.deeds, listed.popups,
    listed.sent⟩

/-- What the ledger tells when all lanes have ended. -/
theorem raced {timings : Timings} {candidates : List Handler} {url : String} {start now : Ledger}
    (apart : (candidates.map Handler.slot).Nodup) (listed : Listed url candidates start)
    (racing : Racing candidates start now)
    (waited : ∀ handler ∈ candidates, ∃ yes, LaneEnds timings handler yes now) :
    Raced timings candidates now := by
  obtain ⟨before, sent, noPlatform, noPopup, noVerdict⟩ := listed.sent
  obtain ⟨after, sentAfter⟩ := racing.lawful.sent
  have noMore : after.filterMap Outbound.detected? = [] := by
    have same := racing.detections
    rw [Ledger.detections, Ledger.detections, ← sentAfter, List.filterMap_append] at same
    exact List.append_right_eq_self.mp same
  refine ⟨⟨url, before, after, ?_, ?_, noPopup, noVerdict⟩, fun handler member => ?_, racing.others,
    confirmed_perm apart waited racing.others, (racing.lawful.sound listed.sound).told⟩
  · rw [← sentAfter, sent]
  · rw [List.filterMap_append, noPlatform, noMore, List.append_nil]
  · obtain ⟨yes, ends⟩ := waited handler member
    rw [ends.seen]
    exact ends

theorem does_giveUp {known : Ledger → Prop} (phase : Phase)
    (keeps : ∀ now, known now → known (now.update fun state => { state with phase := phase })) :
    Terms.alone.Does known (giveUp phase) fun result now =>
      known now ∧ now.engine.phase = phase ∧ result = false := by
  refine Terms.Does.via (fun _ now => known now ∧ now.engine.phase = phase)
    (Terms.does_update fun now knows => ⟨trivial, keeps now knows, rfl⟩) fun _ => ?_
  exact (Terms.does_undoPrehide (Terms.alone_keeps _)).andThen fun _ =>
    Terms.does_pure fun now knows => ⟨knows.1, knows.2, rfl⟩

/-- What is known of the race as long as no dialog is acted upon. -/
structure Unacted (candidates : List Handler) (start now : Ledger) : Prop where
  racing : Racing candidates start now
  deeds : now.deeds = []
  verdicts : now.verdicts = []

theorem unled (timings : Timings) (candidates : List Handler) (start : Ledger) :
    Part.Unled Terms.alone.rely (Unacted candidates start) (candidates.map (lanePart timings)) where
  rely knows same := same ▸ knows
  guar part member := by
    obtain ⟨handler, within, rfl⟩ := List.mem_map.mp member
    intro before after knows did
    exact ⟨Racing.lane within knows.racing did, did.deeds.trans knows.deeds,
      did.verdicts.trans knows.verdicts⟩

structure Lost (timings : Timings) (candidates : List Handler) (start now : Ledger) : Prop where
  unacted : Unacted candidates start now
  waited : ∀ handler ∈ candidates, LaneEnds timings handler false now

theorem Lost.enter {timings : Timings} {candidates : List Handler} {start now : Ledger}
    (lost : Lost timings candidates start now) (phase : Phase) :
    Lost timings candidates start (now.update fun state => { state with phase := phase }) :=
  ⟨⟨lost.unacted.racing.lead (leadMayDo_enter now phase), lost.unacted.deeds, lost.unacted.verdicts⟩,
    lost.waited⟩

/-- Where all candidates were waited for in vain nothing showed. -/
theorem Lost.reacted {timings : Timings} {action : AutoAction} {candidates : List Handler} {url : String}
    {start now : Ledger} (lost : Lost timings candidates start now) (some : candidates ≠ [])
    (apart : (candidates.map Handler.slot).Nodup) (listed : Listed url candidates start)
    (phase : now.engine.phase = .noPopup) : Reacted timings action candidates false now := by
  have waited : ∀ handler ∈ candidates, ∃ yes, LaneEnds timings handler yes now :=
    fun handler member => ⟨false, lost.waited handler member⟩
  have ended := raced apart listed lost.unacted.racing waited
  have unseen : ∀ handler ∈ candidates, wasSeen now handler = false :=
    fun handler member => LaneEnds.seen (lost.waited handler member)
  have none : confirmations now.journal = [] := by
    have confirmed := ended.confirmed
    rw [List.filter_eq_nil_iff.mpr fun handler member => by simp [unseen handler member]] at confirmed
    exact confirmed.eq_nil
  have found : now.engine.found = .none := by
    have held := (lost.unacted.racing.lawful.sound listed.sound).held
    rw [none] at held
    exact Option.map_eq_none_iff.mp held
  have nobody : candidates.any (wasSeen now) = false := by
    rw [List.any_eq_false]
    exact fun handler member => by simp [unseen handler member]
  rw [Reacted, if_neg some, nobody]
  exact ⟨ended, found, lost.unacted.deeds, lost.unacted.verdicts, phase, rfl⟩

/-- The race ends when every candidate was waited for and the first dialog was acted upon. -/
theorem does_race (timings : Timings) (action : AutoAction) {candidates : List Handler} (url : String)
    (some : candidates ≠ []) (apart : (candidates.map Handler.slot).Nodup) :
    Terms.alone.Does (Listed url candidates)
      (.race (candidates.map (candidateLane timings url)) false (decide timings action) fun
        | none => giveUp .noPopup
        | .some acted => pure acted)
      (Reacted timings action candidates) := by
  intro since now _ listed
  have racing : Racing candidates now now := by
    refine ⟨.refl now, fun handler held => ?_, rfl, fun call popup _ => listed.popups call popup⟩
    rw [listed.found] at held
    cases held
  have lanes : Flow.LanesObey (candidates.map (candidateLane timings url))
      (candidates.map (lanePart timings)) now := by
    refine Flow.lanesObey_map fun handler member => ?_
    obtain ⟨before, sent, -⟩ := listed.sent
    have waits : Waits url handler [] now := by
      refine ⟨?_, listed.popups _ rfl⟩
      rw [sent]
      exact List.mem_append_right _ (List.mem_map.mpr ⟨handler, member, rfl⟩)
    refine (((awaits handler url).does_lane timings).imp fun yes later ended => ?_).holds Waits.keeps waits
    cases yes with
    | true =>
        obtain ⟨count, within, entries, found⟩ := ended
        exact ⟨⟨count, within, entries⟩, found⟩
    | false => exact ended.entries
  refine ⟨trivial, Racing candidates now, leadPart action, candidates.map (lanePart timings), racing,
    race timings action now apart, lanes, nofun, fun _ => ⟨Unacted candidates now,
      ⟨racing, listed.deeds, listed.verdicts⟩, unled timings candidates now, ?_, ?_⟩, ?_⟩
  · intro part member won later unacted goal relied
    obtain ⟨handler, within, rfl⟩ := List.mem_map.mp member
    obtain ⟨first, held⟩ := Option.isSome_iff_exists.mp goal.2
    have leads : Leads first [] [] won := ⟨held, unacted.deeds, unacted.verdicts⟩
    refine (does_decide timings action first later later (leadTerms.guar_refl later)
      (leads.keeps relied)).weaken id id ?_
    exact fun value since now ended => ⟨ended.1, first, ended.2⟩
  · intro later unacted goals
    have lost : Lost timings candidates now later :=
      ⟨unacted, fun handler member => goals _ (List.mem_map.mpr ⟨handler, member, rfl⟩)⟩
    refine ((does_giveUp .noPopup fun _ lost => lost.enter .noPopup).imp ?_)
      later later trivial lost
    rintro result now ⟨lost, phase, rfl⟩
    exact lost.reacted some apart listed phase
  · rintro value later racing goals ⟨handler, acted⟩
    have ended := raced apart listed racing
      fun handler member => goals _ (List.mem_map.mpr ⟨handler, member, rfl⟩)
    have member := racing.found handler acted.found
    have head : (confirmations later.journal).head? = .some handler.badge := by
      rw [← (racing.lawful.sound listed.sound).held, acted.found]
      rfl
    have seen : candidates.any (wasSeen later) = true := by
      refine List.any_eq_true.mpr ⟨handler, member, ?_⟩
      exact List.contains_iff_mem.mpr (List.mem_of_mem_head? head)
    refine ⟨trivial, ?_⟩
    rw [Reacted, if_neg some, seen]
    exact ⟨ended, handler, member, head, acted⟩

/-- What the engine does when it knows its candidates. -/
theorem does_react (timings : Timings) (action : AutoAction) {candidates : List Handler}
    (apart : (candidates.map Handler.slot).Nodup) :
    Terms.alone.Does Untouched (react timings action candidates)
      (Reacted timings action candidates) := by
  refine Terms.does_ite (fun empty => ?_) fun nonempty => ?_
  · refine (does_giveUp .noneFound fun now untouched => ?_).imp ?_
    · exact ⟨(Lawful.update rfl).sound untouched.sound, untouched.found, untouched.detections,
        untouched.verdicts, untouched.deeds, untouched.popups⟩
    · rintro result now ⟨untouched, phase, rfl⟩
      rw [Reacted, if_pos (List.isEmpty_iff.mp empty)]
      exact ⟨untouched, (popups_nil untouched.sound untouched.found).2, phase, rfl⟩
  · have some : candidates ≠ [] := fun none => nonempty (List.isEmpty_iff.mpr none)
    refine (Terms.does_ask (Terms.alone_keeps _)).andThen fun url => ?_
    let listed : List Handler → Ledger → Prop := fun rest now =>
      ∃ done, candidates = done ++ rest ∧ Listed url done now
    refine Terms.Does.via (fun _ => listed []) ((Terms.does_each listed ?_ candidates).given ?_) fun _ => ?_
    · refine fun handler rest => Terms.does_send fun now => ?_
      rintro ⟨done, rfl, known⟩
      exact ⟨trivial, done ++ [handler], by simp, known.more handler⟩
    · exact fun now untouched => ⟨[], rfl, untouched.listed url⟩
    refine Terms.Does.via (fun _ => Listed url candidates) (Terms.does_update fun now known => ?_)
      fun _ => does_race timings action url some apart
    obtain ⟨done, whole, known⟩ := known
    rw [List.append_nil] at whole
    exact ⟨trivial, whole ▸ known.enter .confirming⟩

/-- What the engine does before it looks for candidates. -/
def opening (timings : Timings) (config : EngineConfig) (rules : RuleSet) : Flow EngineConfig := do
  update fun state => { state with config := config }
  update fun state => (state.addRules rules).disable config.disabledCmps
  if config.enablePrehide then
    let _ ← prehide
  waitUntilReady timings
  let config := (← state).config
  enter .detecting
  return config

theorem setUp_eq (timings : Timings) {config : EngineConfig} (rules : RuleSet)
    (enabled : config.enabled = true) :
    setUp timings config rules = (opening timings config rules).bind fun config =>
      (findCandidates timings config.detectRetries).bind (react timings config.autoAction) := by
  unfold setUp opening start react
  cases config.enablePrehide <;>
    simp only [enabled, if_true, Bool.false_eq_true, if_false, Flow.andThen_eq, Flow.pure_eq, Flow.bind_assoc, Flow.bind] <;>
    rfl

/-- What is known while the engine looks for candidates. -/
structure Seeking (config : EngineConfig) (now : Ledger) : Prop where
  untouched : Untouched now
  slotted : now.engine.Slotted
  config : now.engine.config = config

theorem Seeking.quietly {config : EngineConfig} : Keeps Quiet (Seeking config) :=
  fun seeking quiet => ⟨seeking.untouched.quietly quiet, quiet.engine ▸ seeking.slotted,
    quiet.engine ▸ seeking.config⟩

theorem Untouched.update {now : Ledger} {change : EngineState → EngineState} (untouched : Untouched now)
    (found : (change now.engine).found = now.engine.found) : Untouched (now.update change) :=
  ⟨(Lawful.update found).sound untouched.sound, found.trans untouched.found, untouched.detections,
    untouched.verdicts, untouched.deeds, untouched.popups⟩

theorem untouched_of_fresh {ledger : Ledger} (fresh : ledger.IsFresh) : Untouched ledger := by
  refine ⟨fresh.sound, fresh.found, ?_, ?_, ?_, fun call _ => ?_⟩
  · simp [Ledger.detections, fresh.sent]
  · simp [Ledger.verdicts, fresh.sent]
  · simp [Ledger.deeds, fresh.journal]
  · simp [Ledger.entriesOf, fresh.journal]

theorem does_opening (timings : Timings) (config : EngineConfig) (rules : RuleSet) :
    Terms.alone.Does (fun now => Untouched now ∧ now.engine.Slotted) (opening timings config rules)
      fun given now => Seeking config now ∧ given = config := by
  have rest : Terms.alone.Does (Seeking config)
      (do waitUntilReady timings; let config := (← state).config; enter .detecting; return config)
      fun given now => Seeking config now ∧ given = config := by
    refine (Terms.does_modest (waitUntilReady_modest timings) (Terms.alone_keeps _)
      Seeking.quietly).andThen fun _ => Terms.does_state.andThen fun known => ?_
    refine Terms.Does.via (fun _ now => Seeking config now ∧ known.config = config)
      (Terms.does_update fun now ended => ?_) fun _ => Terms.does_pure fun _ => id
    obtain ⟨rfl, seeking⟩ := ended
    exact ⟨trivial, ⟨seeking.untouched.update rfl, ⟨seeking.slotted.distinct, seeking.slotted.given⟩,
      seeking.config⟩, seeking.config⟩
  refine Terms.Does.via (fun _ => Seeking config) (Terms.does_update fun now known => ?_) fun _ => ?_
  · exact ⟨trivial, known.1.update rfl, ⟨known.2.distinct, known.2.given⟩, rfl⟩
  refine Terms.Does.via (fun _ => Seeking config) (Terms.does_update fun now seeking => ?_) fun _ => ?_
  · have same := EngineState.sameButRoster_addRules rules now.engine
    exact ⟨trivial, seeking.untouched.update same.found,
      (seeking.slotted.addRules rules).disable config.disabledCmps, same.config.trans seeking.config⟩
  refine Terms.does_ite (fun _ => ?_) fun _ => rest
  exact (Terms.does_prehide (Terms.alone_keeps _)).andThen fun _ => rest

theorem detects (config : EngineConfig) :
    Terms.Detects Terms.alone (.keeping (Seeking config) Seeking.quietly) (Seeking config)
      fun _ => True where
  relies same knows := same ▸ knows
  allows _ := trivial
  social := id
  stable knows relied := relied knows
  quietly := Seeking.quietly
  roster _ _ _ _ := trivial
  notes now handler progress _ seeking := by
    have untouched := seeking.untouched
    have unconfirmed : JournalEntry.confirmed? ⟨handler.call .detect, progress⟩ = none := by
      cases progress <;> rfl
    have after : Seeking config (now.record ⟨handler.call .detect, progress⟩) := by
      refine ⟨⟨(Lawful.record unconfirmed nofun).sound untouched.sound, untouched.found,
        untouched.detections, untouched.verdicts, ?_, fun call popup => ?_⟩, seeking.slotted,
        seeking.config⟩
      · simp [Ledger.deeds_record, untouched.deeds, Handler.call, Routine.acts]
      · have apart : handler.call .detect ≠ call := by
          rintro rfl
          cases popup
        simp [Ledger.entriesOf_record, untouched.popups call popup, apart]
    exact ⟨fun _ => after, after⟩
  reports now names seeking := by
    have untouched := seeking.untouched
    refine ⟨trivial, ⟨(Lawful.send rfl (by simp)).sound untouched.sound, untouched.found, ?_, ?_,
      untouched.deeds, untouched.popups⟩, seeking.slotted, seeking.config⟩
    · simp [Ledger.detections_send, untouched.detections, Outbound.detected?]
    · simp [Ledger.verdicts_send, untouched.verdicts, Outbound.isVerdict]

/-- A start that has ended prepared itself, looked for candidates and reacted to those it found. -/
theorem setUp_ends (timings : Timings) {config : EngineConfig} (rules : RuleSet)
    (enabled : config.enabled = true) {first last : Ledger} {result : Bool} (fresh : first.IsFresh)
    (slotted : first.engine.Slotted)
    (turns : Flow.Turns (setUp timings config rules) first (.done result) last) :
    ∃ candidates before after,
      Flow.Turns (opening timings config rules) first (.done config) before ∧
      Flow.Turns (findCandidates timings config.detectRetries) before (.done candidates) after ∧
      Flow.Turns (react timings config.autoAction candidates) after (.done result) last ∧
      (candidates.map Handler.slot).Nodup ∧
      Reacted timings config.autoAction candidates result last := by
  rw [setUp_eq timings rules enabled] at turns
  obtain ⟨given, before, prepares, turns⟩ := turns.split
  obtain ⟨candidates, after, finds, reacts⟩ := turns.split
  obtain ⟨seeking, rfl⟩ :=
    (does_opening timings config rules).ends ⟨untouched_of_fresh fresh, slotted⟩ prepares
  have found := ((detects given).does_findCandidates (fun all => (all.map Handler.slot).Nodup) timings
    (fun _ seeking => seeking.slotted.distinct) given.detectRetries).ends seeking finds
  obtain ⟨seeking, all, distinct, part⟩ := found
  have apart := distinct.sublist (part.map Handler.slot)
  exact ⟨candidates, before, after, prepares, finds, reacts, apart,
    (does_react timings given.autoAction apart).ends seeking.untouched reacts⟩

end Engine

end ConsentBanner

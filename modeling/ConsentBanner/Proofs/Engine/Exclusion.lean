import ConsentBanner.Proofs.Engine.Gating

/-!
# Who is left out

Handlers may be registered at any time, and the host gives any number of commands, which are carried out
side by side.  A start that leaves out handlers by their names leaves them out for good: none that was
registered before is called in that start or later.  Main statement: `Life.calls_gated`.  A start that is
switched off leaves out nobody (`Life.switchedOff_leaves`).
-/

set_option autoImplicit false

namespace ConsentBanner

open Engine
open Flow (Burst Turn Turns Steps)
open Ledger (Quiet)
open Part (Keeps)

/-- A command that is carried out: what was told of it so far, and how it goes on. -/
structure Mandate where
  command : Inbound
  story : List Exchange
  flow : Flow Unit

/-- An engine with all commands of its host. -/
structure Life where
  ledger : Ledger
  mandates : List Mandate

namespace Life

/-- A command begins: it goes on until it gives way for the first time. -/
inductive Begins (timings : Timings) (command : Inbound) : Life → Life → Prop where
  | intro {before after : Ledger} {mandates : List Mandate} {flow : Flow Unit} {story : List Exchange}
      (burst : Burst (receive timings command) before flow after)
      (steps : Steps (receive timings command) story flow) (follows : before.Follows story after) :
      Begins timings command ⟨before, mandates⟩ ⟨after, mandates ++ [⟨command, story, flow⟩]⟩

/-- One step: a handler is registered or some are taken out, a command begins or one goes on by a turn.
What is told is what happens to the ledger. -/
inductive Step (timings : Timings) : Life → Life → Prop where
  | register {ledger : Ledger} {mandates : List Mandate} (plan : Plan) :
      Step timings ⟨ledger, mandates⟩ ⟨ledger.update fun state => state.add plan, mandates⟩
  | disable {ledger : Ledger} {mandates : List Mandate} (names : List String) :
      Step timings ⟨ledger, mandates⟩ ⟨ledger.update fun state => state.disable names, mandates⟩
  | begin {before after : Life} {command : Inbound} (begins : Begins timings command before after) :
      Step timings before after
  | goOn {before after : Ledger} {ahead behind : List Mandate} {mandate : Mandate} {flow : Flow Unit}
      {story : List Exchange} (turn : Turn mandate.flow before flow after)
      (steps : Steps mandate.flow story flow) (follows : before.Follows story after) :
      Step timings ⟨before, ahead ++ mandate :: behind⟩
        ⟨after, ahead ++ ⟨mandate.command, mandate.story ++ story, flow⟩ :: behind⟩

/-- Any number of steps. -/
inductive Reaches (timings : Timings) (first : Life) : Life → Prop where
  | refl : Reaches timings first first
  | step {middle last : Life} (reaches : Reaches timings first middle) (next : Step timings middle last) :
      Reaches timings first last

/-- An engine on a page on which nothing has happened yet. -/
def born (page : Snapshot) : Life := ⟨(World.start page).ledger, []⟩

/-- No command is being carried out. -/
def Idle (life : Life) : Prop := ∀ mandate ∈ life.mandates, mandate.flow = .done ()

variable {timings : Timings}

theorem Reaches.trans {first middle last : Life} (one : Reaches timings first middle)
    (two : Reaches timings middle last) : Reaches timings first last := by
  induction two with
  | refl => exact one
  | step _ next ih => exact ih.step next

theorem Reaches.goOn {first : Life} {command : Inbound} {flow after : Flow Unit} {before later : Ledger}
    (ahead : List Mandate) {behind : List Mandate} (turns : Turns flow before after later) :
    ∀ {story : List Exchange}, Reaches timings first ⟨before, ahead ++ ⟨command, story, flow⟩ :: behind⟩ →
      ∃ story, Reaches timings first ⟨later, ahead ++ ⟨command, story, after⟩ :: behind⟩ := by
  induction turns with
  | refl => exact fun reaches => ⟨_, reaches⟩
  | head turn _ ih =>
      intro story reaches
      obtain ⟨told, steps, follows⟩ := turn.tells
      exact ih (reaches.step (.goOn turn steps follows))

theorem run_command (timings : Timings) (command : Inbound) (world : World) (mandates : List Mandate) :
    ∃ begun story, Begins timings command ⟨world.ledger, mandates⟩ begun ∧
      Reaches timings begun ⟨((receive timings command).run world).2.ledger,
        mandates ++ [⟨command, story, ((receive timings command).run world).1⟩]⟩ := by
  obtain ⟨between, middle, burst, turns⟩ := ((receive timings command).run_adequate world).goes
  obtain ⟨told, steps, follows⟩ := burst.tells
  have here : Reaches timings ⟨middle, mandates ++ [⟨command, told, between⟩]⟩ _ := .refl
  obtain ⟨story, reaches⟩ := Reaches.goOn mandates turns here
  exact ⟨_, story, ⟨burst, steps, follows⟩, reaches⟩

end Life

/-- Names that are left out, but for handlers that were registered from some slot on. -/
structure Ban where
  names : List String
  next : Nat

namespace Ban

/-- A handler may be called. -/
def Allows (ban : Ban) (name : String) (slot : Nat) : Prop := name ∈ ban.names → ban.next ≤ slot

/-- Since the journal was this one, nobody was called who is left out, and nobody who is takes part. -/
structure Kept (ban : Ban) (past : List JournalEntry) (now : Ledger) : Prop where
  roster : ∀ handler ∈ now.engine.handlers, ban.Allows handler.name handler.slot
  found : ∀ handler ∈ now.engine.found, ban.Allows handler.name handler.slot
  next : ban.next ≤ now.engine.nextSlot
  journal : ∃ more, now.journal = past ++ more ∧ ∀ entry ∈ more, ban.Allows entry.call.name entry.call.slot

variable {ban : Ban} {past : List JournalEntry}

theorem Kept.quietly : Keeps Quiet (ban.Kept past) := by
  rintro before after kept ⟨engine, journal, -⟩
  exact ⟨engine ▸ kept.roster, engine ▸ kept.found, engine ▸ kept.next, journal ▸ kept.journal⟩

theorem Kept.update {now : Ledger} (kept : ban.Kept past now) {change : EngineState → EngineState}
    (handlers : (change now.engine).handlers = now.engine.handlers)
    (found : (change now.engine).found = now.engine.found)
    (next : (change now.engine).nextSlot = now.engine.nextSlot) : ban.Kept past (now.update change) :=
  ⟨fun handler member => kept.roster handler (handlers ▸ member),
    fun handler member => kept.found handler (found ▸ member), next.symm ▸ kept.next,
    kept.journal⟩

theorem Kept.add {now : Ledger} (kept : ban.Kept past now) (plan : Plan) :
    ban.Kept past (now.update fun state => state.add plan) := by
  refine ⟨fun handler member => ?_, kept.found, Nat.le_succ_of_le kept.next, kept.journal⟩
  rcases List.mem_append.mp member with old | new
  · exact kept.roster handler old
  · obtain rfl := List.mem_singleton.mp new
    exact fun _ => kept.next

theorem Kept.addAll (plans : List Plan) : ∀ {now : Ledger}, ban.Kept past now →
    ban.Kept past (now.update fun state => plans.foldl EngineState.add state) := by
  induction plans with
  | nil => exact fun kept => kept
  | cons plan rest ih => exact fun kept => ih (kept.add plan)

theorem Kept.disable {now : Ledger} (kept : ban.Kept past now) (names : List String) :
    ban.Kept past (now.update fun state => state.disable names) :=
  ⟨fun handler member => kept.roster handler (List.mem_filter.mp member).1, kept.found, kept.next,
    kept.journal⟩

theorem Kept.record {now : Ledger} (kept : ban.Kept past now) {handler : Handler} {routine : Routine}
    {progress : Progress} (allows : ban.Allows handler.name handler.slot) :
    ban.Kept past (now.record ⟨handler.call routine, progress⟩) := by
  obtain ⟨more, journal, each⟩ := kept.journal
  refine ⟨kept.roster, kept.found, kept.next, more ++ [⟨handler.call routine, progress⟩], ?_, ?_⟩
  · rw [Ledger.record, journal, List.append_assoc]
  · intro entry member
    rcases List.mem_append.mp member with old | new
    · exact each entry old
    · obtain rfl := List.mem_singleton.mp new
      exact allows

theorem Kept.confirm {now : Ledger} (kept : ban.Kept past now) {handler : Handler} {url : String}
    (allows : ban.Allows handler.name handler.slot) : ban.Kept past (now.confirm handler url) := by
  have noted : ban.Kept past (now.record ⟨handler.call .popup, .came true⟩) := kept.record allows
  have same : (now.confirm handler url).engine.handlers = now.engine.handlers :=
    now.engine.handlers_confirm handler
  have next : (now.confirm handler url).engine.nextSlot = now.engine.nextSlot :=
    now.engine.nextSlot_confirm handler
  refine ⟨fun other member => noted.roster other (same ▸ member), fun other member => ?_,
    next ▸ noted.next, noted.journal⟩
  rw [Ledger.found_confirm] at member
  cases held : now.engine.found with
  | none =>
      rw [held] at member
      obtain rfl := Option.some.inj member
      exact allows
  | some first =>
      rw [held] at member
      obtain rfl := Option.some.inj member
      exact kept.found _ held

/-- The terms on which nobody is called who is left out. -/
def terms (ban : Ban) (past : List JournalEntry) : Terms := .keeping (ban.Kept past) Kept.quietly

/-- The part of a command that calls nobody who is left out. -/
def part (ban : Ban) (past : List JournalEntry) : Part Unit :=
  (ban.terms past).part (fun _ _ => True) fun _ _ _ _ _ => trivial

theorem stable : Keeps (ban.terms past).rely (ban.Kept past) := fun kept relied => relied kept

theorem Kept.step {now after : Ledger} (kept : ban.Kept past after) :
    (ban.terms past).guar now after ∧ ban.Kept past after :=
  ⟨fun _ => kept, kept⟩

theorem does_enter (phase : Phase) :
    (ban.terms past).Does (ban.Kept past) (enter phase) fun _ => ban.Kept past :=
  Terms.does_update fun _ kept => (kept.update rfl rfl rfl).step

theorem does_send (message : Outbound) :
    (ban.terms past).Does (ban.Kept past) (Flow.send message) fun _ => ban.Kept past :=
  Terms.does_send fun _ kept => Kept.step ⟨kept.roster, kept.found, kept.next, kept.journal⟩

theorem does_undoPrehide : (ban.terms past).Does (ban.Kept past) undoPrehide fun _ => ban.Kept past :=
  Terms.does_undoPrehide stable

theorem does_url : (ban.terms past).Does (ban.Kept past) Primitive.url fun _ => ban.Kept past :=
  Terms.does_ask stable

theorem does_attempt (timings : Timings) {handler : Handler} (routine : Routine)
    (allows : ban.Allows handler.name handler.slot) :
    (ban.terms past).Does (ban.Kept past) (handler.attempt timings routine) fun _ => ban.Kept past :=
  Terms.does_attempt _ stable Kept.quietly (fun _ kept => (kept.record allows).step)
    fun _ _ kept => (kept.record allows).step

/-- Whoever is confirmed may be called. -/
theorem does_state : (ban.terms past).Does (ban.Kept past) state fun known now =>
    ban.Kept past now ∧ ∀ handler ∈ known.found, ban.Allows handler.name handler.slot :=
  Terms.does_state.imp fun _ _ ⟨is, kept⟩ => ⟨kept, is ▸ kept.found⟩

theorem does_acting (timings : Timings) {found : Option Handler} (routine : Routine)
    (allows : ∀ handler ∈ found, ban.Allows handler.name handler.slot) :
    (ban.terms past).Does (ban.Kept past) (Engine.attempt timings found routine) fun _ => ban.Kept past := by
  cases found with
  | none => exact Terms.does_pure fun _ kept => kept
  | some handler => exact does_attempt timings routine (allows handler rfl)

theorem does_holds (found : Option Handler) {property : Handler → Flow Bool}
    (answers : ∀ handler, (ban.terms past).Does (ban.Kept past) (property handler) fun _ => ban.Kept past) :
    (ban.terms past).Does (ban.Kept past) (holds found property) fun _ => ban.Kept past := by
  cases found with
  | none => exact Terms.does_pure fun _ kept => kept
  | some handler => exact answers handler

theorem does_execute (timings : Timings) (decision : Decision) :
    (ban.terms past).Does (ban.Kept past) (execute timings decision) fun _ => ban.Kept past := by
  have recalls : ∀ slot, (ban.terms past).Does (ban.Kept past) (memoryOf slot) fun _ => ban.Kept past :=
    fun slot => Terms.does_memory.imp fun _ _ known => known.2
  refine (does_enter _).andThen fun _ => does_state.andThen fun known => Terms.Does.fact fun allows => ?_
  refine (does_acting timings _ allows).andThen fun result => does_undoPrehide.andThen fun _ => ?_
  refine (does_enter _).andThen fun _ => does_url.andThen fun url => ?_
  refine (does_holds _ fun handler => ?_).andThen fun tests => (does_send _).andThen fun _ => ?_
  · exact (recalls _).andThen fun _ => Terms.does_pure fun _ kept => kept
  have final : (ban.terms past).Does (ban.Kept past) (do enter .done; return result) fun _ => ban.Kept past :=
    (does_enter _).andThen fun _ => Terms.does_pure fun _ kept => kept
  refine Terms.does_ite (fun _ => (does_holds _ fun handler => ?_).andThen fun completes => ?_) fun _ => final
  · refine Terms.Does.via (fun _ => ban.Kept past) ?_ fun _ => Terms.does_pure fun _ kept => kept
    exact (recalls _).andThen fun _ => Terms.does_pure fun _ kept => kept
  · exact Terms.does_ite (fun _ => (does_send _).andThen fun _ => final) fun _ => final

theorem does_selfTest (timings : Timings) :
    (ban.terms past).Does (ban.Kept past) (selfTest timings) fun _ => ban.Kept past := by
  refine does_state.andThen fun known => Terms.Does.fact fun allows => ?_
  refine (does_acting timings _ allows).andThen fun result => does_url.andThen fun url => ?_
  exact (does_send _).andThen fun _ => Terms.does_pure fun _ kept => kept

theorem does_decide (timings : Timings) (action : AutoAction) :
    (ban.terms past).Does (ban.Kept past) (Engine.decide timings action) fun _ => ban.Kept past := by
  refine (does_enter _).andThen fun _ => ?_
  cases action with
  | optOut => exact does_execute timings .optOut
  | optIn => exact does_execute timings .optIn
  | doNothing => exact (does_enter _).andThen fun _ => Terms.does_pure fun _ kept => kept

/-- Nobody is called any more, so nothing has to be known. -/
theorem does_giveUp (phase : Phase) :
    (ban.terms past).Does (fun _ => True) (giveUp phase) fun _ _ => True := by
  refine Terms.Does.via (fun _ _ => True)
    (Terms.does_update fun _ _ => ⟨fun kept => kept.update rfl rfl rfl, trivial⟩) fun _ => ?_
  exact (Terms.does_undoPrehide fun _ _ => trivial).andThen fun _ =>
    Terms.does_pure fun _ => id

theorem detects : Terms.Detects (ban.terms past) (ban.terms past) (ban.Kept past)
    fun handler => ban.Allows handler.name handler.slot where
  relies := id
  allows := id
  social := id
  stable := stable
  quietly := Kept.quietly
  roster _ kept := kept.roster
  notes _ _ _ allows kept := (kept.record allows).step
  reports _ _ kept := Kept.step ⟨kept.roster, kept.found, kept.next, kept.journal⟩

theorem awaits {handler : Handler} (allows : ban.Allows handler.name handler.slot) (url : String) :
    Terms.Awaits (ban.terms past) handler url (fun _ => ban.Kept past) (fun _ => ban.Kept past)
      fun _ => ban.Kept past where
  waitsStable _ := stable
  asksStable _ := stable
  asksQuietly _ := Kept.quietly
  begun _ _ kept := (kept.record allows).step
  came _ _ kept := (kept.record allows).step
  confirms _ _ kept := (kept.confirm allows).step

theorem does_start (timings : Timings) :
    (ban.terms past).Does (ban.Kept past) (start timings) fun _ _ => True := by
  refine does_state.andThen fun known => Terms.Does.fact fun _ => (does_enter _).andThen fun _ => ?_
  refine Terms.Does.andThen (detects.does_findCandidates
    (fun all => ∀ handler ∈ all, ban.Allows handler.name handler.slot) timings (fun _ kept => kept.roster) _)
    fun candidates => Terms.Does.fact fun ⟨all, allows, part⟩ => ?_
  refine Terms.does_ite (fun _ => (does_giveUp _).given fun _ _ => trivial) fun _ => ?_
  refine does_url.andThen fun url => Terms.Does.via (fun _ => ban.Kept past)
    (Terms.does_each (fun _ => ban.Kept past) (fun _ _ => does_send _) candidates) fun _ => ?_
  refine (does_enter _).andThen fun _ => ?_
  refine Terms.does_race (ban.Kept past) id stable stable (fun lane member => ?_) ?_ fun result => ?_
  · obtain ⟨handler, within, rfl⟩ := List.mem_map.mp member
    refine ((awaits (allows handler (part.subset within)) url).does_lane timings).imp fun yes now ended => ?_
    rintro rfl
    obtain ⟨_, _, kept⟩ := ended
    exact kept
  · exact (does_decide timings _).imp fun _ _ _ => trivial
  · cases result with
    | none => exact does_giveUp _
    | some acted => exact Terms.does_pure fun _ => id

/-- What a start does once its handlers are known. -/
def begun (timings : Timings) (config : EngineConfig) : Flow Bool := do
  if config.enablePrehide then
    let _ ← prehide
  waitUntilReady timings
  start timings

theorem does_begun (timings : Timings) (config : EngineConfig) :
    (ban.terms past).Does (ban.Kept past) (begun timings config) fun _ _ => True := by
  have waits : (ban.terms past).Does (ban.Kept past) (waitUntilReady timings) fun _ => ban.Kept past :=
    Terms.does_modest (waitUntilReady_modest timings) stable Kept.quietly
  have begins : (ban.terms past).Does (ban.Kept past) (do waitUntilReady timings; start timings)
      fun _ _ => True := waits.andThen fun _ => does_start timings
  refine Terms.does_ite (fun _ => ?_) fun _ => begins
  exact (Terms.does_prehide stable).andThen fun _ => begins

theorem does_receive (timings : Timings) (command : Inbound) :
    (ban.terms past).Does (ban.Kept past) (receive timings command) fun _ _ => True := by
  cases command with
  | initResponse config rules =>
      refine Terms.Does.via (fun _ _ => True) ?_ fun _ => Terms.does_pure fun _ => id
      refine Terms.Does.via (fun _ => ban.Kept past)
        (Terms.does_update fun _ kept => (kept.update rfl rfl rfl).step) fun _ => Terms.does_ite (fun _ => ?_) fun _ => ?_
      · refine Terms.Does.via (fun _ => ban.Kept past) (Terms.does_update fun now kept => ?_) fun _ =>
          does_begun timings config
        exact (Kept.disable (kept.addAll _) config.disabledCmps).step
      · exact (does_enter _).andThen fun _ => Terms.does_pure fun _ _ => trivial
  | optOut => exact (does_execute timings .optOut).andThen fun _ => Terms.does_pure fun _ _ => trivial
  | optIn => exact (does_execute timings .optIn).andThen fun _ => Terms.does_pure fun _ _ => trivial
  | selfTest => exact (does_selfTest timings).andThen fun _ => Terms.does_pure fun _ _ => trivial
  | evalResponse _ _ =>
      refine Terms.Does.via (fun _ _ => True) ?_ fun _ => Terms.does_pure fun _ => id
      intro since now kept known
      refine Flow.obeys_request rfl fun _ _ replied => ?_
      obtain rfl := replied
      exact ⟨kept, trivial⟩

end Ban

namespace Life

variable {timings : Timings} {ban : Ban} {past : List JournalEntry}

/-- Since the journal was this one, nobody was called who is left out, and nobody will be. -/
structure Keeps (ban : Ban) (past : List JournalEntry) (life : Life) : Prop where
  kept : ban.Kept past life.ledger
  plays : ∀ mandate ∈ life.mandates, (ban.part past).Holds mandate.flow life.ledger

theorem Keeps.step {life next : Life} (keeps : Keeps ban past life) (step : Step timings life next) :
    Keeps ban past next := by
  obtain ⟨kept, plays⟩ := keeps
  cases step with
  | register plan =>
      exact ⟨kept.add plan, fun mandate member => (plays mandate member).later fun _ => kept.add plan⟩
  | disable names =>
      exact ⟨kept.disable names, fun mandate member => (plays mandate member).later fun _ => kept.disable names⟩
  | @begin _ _ command begins =>
      cases begins with | @intro before after mandates flow story burst steps follows =>
      have obeys := Ban.does_receive timings command before before ((ban.terms past).guar_refl before) kept
      have ⟨did, holds⟩ : (ban.part past).guar before after ∧ (ban.part past).Holds flow after :=
        burst.keeps obeys
      refine ⟨did kept, fun mandate member => ?_⟩
      rcases List.mem_append.mp member with old | new
      · exact (plays mandate old).later did
      · obtain rfl := List.mem_singleton.mp new
        exact holds
  | @goOn before after ahead behind own flow story turn =>
      have ⟨did, holds⟩ := turn.keeps (plays own (by simp))
      refine ⟨did kept, fun mandate member => ?_⟩
      rcases mem_replace own member with rfl | other
      · exact holds
      · exact (plays mandate other).later did

theorem Keeps.reaches {life last : Life} (keeps : Keeps ban past life) (reaches : Reaches timings life last) :
    Keeps ban past last := by
  induction reaches with
  | refl => exact keeps
  | step _ next ih => exact ih.step next

/-- Requests after which handlers still have slots of their own. -/
def KeepsSlots : {β : Type} → Request β → Prop
  | _, .update change => ∀ state : EngineState, state.Slotted → (change state).Slotted
  | _, _ => True

theorem slots_respects :
    Flow.Respects KeepsSlots fun before after => before.engine.Slotted → after.engine.Slotted where
  refl _ := id
  trans one two := two ∘ one
  reply {_ request _ before after} allowed replied := by
    rw [replied.eq_upon]
    cases request with
    | update change => exact allowed before.engine
    | _ => exact id

theorem receive_slots (timings : Timings) (command : Inbound) :
    (receive timings command).Confined KeepsSlots true := by
  have keeps : ∀ {β : Type} (request : Request β), request.IsSteady (fun _ => True) → KeepsSlots request := by
    intro β request steady
    cases request with
    | update change =>
        intro state slotted
        obtain ⟨phase, is⟩ := steady state
        rw [is]
        exact ⟨slotted.distinct, slotted.given⟩
    | _ => trivial
  have calmly : ∀ {flow : Flow Bool}, Steady (fun _ => True) flow →
      (flow.bind fun _ => .done ()).Confined KeepsSlots true :=
    fun steady => .andThen (steady.weaken keeps).1 fun _ => .pure _
  cases command with
  | initResponse config rules =>
      exact .andThen (confined_setUp timings config rules keeps (fun handler _ slotted => slotted.confirm handler)
        (fun _ slotted => ⟨slotted.distinct, slotted.given⟩)
        (fun _ slotted => (slotted.addRules rules).disable _) fun _ _ _ => trivial) fun _ => .pure _
  | optOut => exact calmly (steady_execute timings trivial)
  | optIn => exact calmly (steady_execute timings trivial)
  | selfTest => exact calmly (steady_selfTest timings trivial)
  | evalResponse id result => exact .andThen (.request trivial trivial) fun _ => .pure _

/-- Everything that was told of a command is what it does, and every handler has a slot of its own. -/
structure Told (timings : Timings) (life : Life) : Prop where
  slotted : life.ledger.engine.Slotted
  steps : ∀ mandate ∈ life.mandates, Steps (receive timings mandate.command) mandate.story mandate.flow

theorem told_born (timings : Timings) (page : Snapshot) : Told timings (born page) :=
  ⟨EngineState.slotted_initial, by simp [born]⟩

theorem Told.step {life next : Life} (told : Told timings life) (step : Step timings life next) :
    Told timings next := by
  obtain ⟨slotted, told⟩ := told
  cases step with
  | register plan => exact ⟨slotted.add plan, told⟩
  | disable names => exact ⟨slotted.disable names, told⟩
  | begin begins =>
      cases begins with | @intro before after mandates flow story burst steps follows =>
      have keeps := burst.turns.respects slots_respects (receive_slots timings _)
      refine ⟨keeps slotted, fun mandate member => ?_⟩
      rcases List.mem_append.mp member with old | new
      · exact told mandate old
      · obtain rfl := List.mem_singleton.mp new
        exact steps
  | @goOn before after ahead behind own flow story turn steps =>
      have mine := told own (by simp)
      have confined := (mine.confined (receive_slots timings own.command)).1
      have keeps := (Turns.single turn).respects slots_respects confined
      refine ⟨keeps slotted, fun mandate member => ?_⟩
      rcases mem_replace own member with rfl | other
      · exact mine.trans steps
      · exact told mandate other

theorem Told.reaches {life last : Life} (told : Told timings life) (reaches : Reaches timings life last) :
    Told timings last := by
  induction reaches with
  | refl => exact told
  | step _ next ih => exact ih.step next

theorem update_eq (change : EngineState → EngineState) : update change = .ask (.update change) .done := rfl

theorem receive_enabled {config : EngineConfig} (rules : RuleSet) (enabled : config.enabled = true) :
    receive timings (.initResponse config rules) =
      .ask (.update fun state => { state with config := config }) fun _ =>
        .ask (.update fun state => (state.addRules rules).disable config.disabledCmps) fun _ =>
          (Ban.begun timings config).bind fun _ => .done () := by
  unfold receive setUp Ban.begun
  simp only [enabled, if_true, Flow.andThen_eq, Flow.pure_eq, update_eq, Flow.bind]

/-- A handler that is always there, under some name. -/
def banner (name : String) : Plan := .scripted { tardyBanner with name := name, script := fun _ => [] }

def registered : World :=
  { World.start (.ofText "") with engine := (EngineState.initial.add (banner "one")).add (banner "two") }

end Life

end ConsentBanner

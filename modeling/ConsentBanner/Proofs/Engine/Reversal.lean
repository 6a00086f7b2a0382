import ConsentBanner.Proofs.Engine.Errand
import ConsentBanner.Proofs.Engine.Exclusion
import ConsentBanner.Proofs.Engine.Prehide

/-!
# What stays hidden

Dialogs that are hidden for the time being stay hidden after a start only if one of them was confirmed and is to be
left alone, and then until the first decision.
-/

set_option autoImplicit false

namespace ConsentBanner

open Engine
open Flow (Confined Steps Allowed)

/-- A command that makes a decision. -/
def Inbound.decides : Inbound → Bool
  | .optOut | .optIn => true
  | _ => false

theorem Inbound.starts_of_decides {command : Inbound} (decides : command.decides = true) :
    command.starts = false := by
  cases command <;> first | rfl | cases decides

def Request.HidesNone : {β : Type} → Request β → Prop
  | _, .page call => call.AddsNoneTo Hiding.passingStyle
  | _, _ => True

/-- Requests after which the configuration is the same, and somebody is confirmed if somebody was. -/
def Request.KeepsKnown : {β : Type} → Request β → Prop
  | _, .update change => ∀ state : EngineState,
    (change state).config = state.config ∧ (state.found.isSome = true → (change state).found.isSome = true)
  | _, _ => True

def Request.IsOrderly {β : Type} (request : Request β) : Prop := request.HidesNone ∧ request.KeepsKnown

def Request.KeepsConfig (config : EngineConfig) : {β : Type} → Request β → Prop
  | _, .update change => ∀ state : EngineState, state.config = config → (change state).config = config
  | _, _ => True

/-- Requests that leave the rules alone that stay. -/
def Request.SparesLasting : {β : Type} → Request β → Prop
  | _, .page call => call.Spares Hiding.lastingStyle
  | _, _ => True

theorem Request.IsSteady.orderly {β : Type} {request : Request β} {engaged : Routine → Prop}
    (steady : request.IsSteady engaged) : request.IsOrderly := by
  cases request with
  | page call => exact ⟨steady, trivial⟩
  | update change =>
      refine ⟨trivial, fun state => ?_⟩
      obtain ⟨phase, is⟩ := steady state
      rw [is]
      exact ⟨rfl, id⟩
  | _ => exact ⟨trivial, trivial⟩

theorem Request.KeepsKnown.keepsConfig {β : Type} {request : Request β} (keeps : request.KeepsKnown)
    (config : EngineConfig) : request.KeepsConfig config := by
  cases request with
  | update change => exact fun state same => (keeps state).1.trans same
  | _ => trivial

theorem EngineState.isSome_found_confirm (state : EngineState) (handler : Handler) :
    (state.confirm handler).found.isSome = true := by
  rw [found_confirm]
  rfl

namespace Stage

/-- Something is hidden for the time being. -/
def IsPrehidden (stage : Stage) : Prop := (stage.page.styleText? Hiding.passingStyle).isSome = true

/-- What others may do meanwhile: anything, but they let the style element be, the configuration, and whoever is
confirmed. -/
structure Apart (before after : Stage) : Prop where
  hidden : after.page.styleText? Hiding.passingStyle = before.page.styleText? Hiding.passingStyle
  found : after.ledger.engine.found = before.ledger.engine.found
  config : after.ledger.engine.config = before.ledger.engine.config
  takes : after.page.TakesStyles

theorem Apart.refl {stage : Stage} (takes : stage.page.TakesStyles) : stage.Apart stage := ⟨rfl, rfl, rfl, takes⟩

instance : IsTrans Stage Apart where
  trans _ _ _ one two :=
    ⟨two.hidden.trans one.hidden, two.found.trans one.found, two.config.trans one.config, two.takes⟩

/-- What else may happen meanwhile: anything, but the engine stays configured as it is, and nothing is hidden. -/
structure Aloof (before after : Stage) : Prop where
  shown : ¬before.IsPrehidden → ¬after.IsPrehidden
  config : after.ledger.engine.config = before.ledger.engine.config
  takes : after.page.TakesStyles

instance : IsTrans Stage Aloof where
  trans _ _ _ one two := ⟨two.shown ∘ one.shown, two.config.trans one.config, two.takes⟩

theorem Apart.aloof {before after : Stage} (apart : before.Apart after) : before.Aloof after :=
  ⟨fun shown hidden => shown (by rwa [IsPrehidden, apart.hidden] at hidden), apart.config, apart.takes⟩

/-- The engine is configured, nobody is confirmed, and something is hidden for the time being. -/
structure Conceals (config : EngineConfig) (stage : Stage) : Prop where
  hidden : stage.IsPrehidden
  unfound : stage.ledger.engine.found = none
  knows : stage.ledger.engine.config = config

variable {exchange : Exchange}

theorem keeps_shown (hides : exchange.request.HidesNone) : Keeps (fun stage => ¬stage.IsPrehidden) exchange := by
  intro before after replied shown
  obtain ⟨request, reply⟩ := exchange
  cases request with
  | page call =>
      obtain ⟨rfl, rfl⟩ := replied
      have absent : before.page.styleText? Hiding.passingStyle = none := by simpa [IsPrehidden] using shown
      rw [IsPrehidden, Snapshot.styleText?_perform, absent, PageCall.restyle_none hides]
      nofun
  | _ => exact fun hidden => shown (by rwa [IsPrehidden, replied.2] at hidden)

theorem keeps_hidden (shows : exchange.request.ShowsNone) : Keeps IsPrehidden exchange := by
  intro before after replied hidden
  obtain ⟨request, reply⟩ := exchange
  cases request with
  | page call =>
      obtain ⟨rfl, rfl⟩ := replied
      rw [IsPrehidden, Snapshot.styleText?_perform]
      exact PageCall.isSome_restyle shows hidden _
  | _ => rwa [IsPrehidden, replied.2]

/-- Whatever comes of an exchange, the rules that stay are the same. -/
def KeepsLasting (exchange : Exchange) : Prop :=
  ∀ text, Keeps (fun stage => stage.page.styleText? Hiding.lastingStyle = text) exchange

theorem keeps_lasting (spares : exchange.request.SparesLasting) : KeepsLasting exchange := by
  intro text before after replied same
  obtain ⟨request, reply⟩ := exchange
  cases request with
  | page call =>
      obtain ⟨rfl, rfl⟩ := replied
      exact (before.page.styleText?_perform Hiding.lastingStyle call).trans
        ((PageCall.restyle_of_spares spares _ _).trans same)
  | _ => exact replied.2 ▸ same

theorem brings_hidden {css : String} {reply : Except PageError Unit} :
    Brings (fun stage => stage.page.TakesStyles) IsPrehidden
      ⟨.page (.appendStyle Hiding.passingStyle css), reply⟩ := by
  rintro before after takes ⟨-, rfl⟩
  rw [IsPrehidden, Snapshot.styleText?_perform, Snapshot.perform_appendStyle takes]
  simp [PageCall.restyle]

theorem brings_shown {reply : Except PageError Bool} : Brings (fun stage => stage.page.TakesStyles)
    (fun stage => ¬stage.IsPrehidden) ⟨.page (.removeStyle Hiding.passingStyle), reply⟩ := by
  rintro before after takes ⟨-, rfl⟩
  rw [IsPrehidden, Snapshot.styleText?_perform, Snapshot.perform_removeStyle takes]
  simp [PageCall.restyle]

theorem keeps_engine {holds : EngineState → Prop}
    (changes : ∀ change reply, exchange = ⟨.update change, reply⟩ → ∀ state, holds state → holds (change state)) :
    Keeps (fun stage => holds stage.ledger.engine) exchange := by
  intro before after replied known
  obtain ⟨request, reply⟩ := exchange
  rw [replied.ledger.eq_upon]
  cases request with
  | update change => exact changes change reply rfl before.ledger.engine known
  | _ => exact known

theorem keeps_unfound (leaves : exchange.request.LeavesFound) :
    Keeps (fun stage => stage.ledger.engine.found = none) exchange := by
  refine @keeps_engine exchange (fun state => state.found = none) fun change reply is state none => ?_
  subst is
  exact (leaves state).trans none

theorem keeps_found (keeps : exchange.request.KeepsKnown) :
    Keeps (fun stage => stage.ledger.engine.found.isSome = true) exchange := by
  refine @keeps_engine exchange (fun state => state.found.isSome = true) fun change reply is state held => ?_
  subst is
  exact (keeps state).2 held

theorem keeps_config {config : EngineConfig} (keeps : exchange.request.KeepsConfig config) :
    Keeps (fun stage => stage.ledger.engine.config = config) exchange := by
  refine @keeps_engine exchange (fun state => state.config = config) fun change reply is state same => ?_
  subst is
  exact keeps state same

theorem brings_found {able : Stage → Prop} {handler : Handler} :
    Brings able (fun stage => stage.ledger.engine.found.isSome = true)
      ⟨.update fun state => state.confirm handler, ()⟩ := by
  intro before after _ replied
  rw [show after.ledger = before.ledger.update _ from replied.1]
  exact before.ledger.engine.isSome_found_confirm handler

end Stage

namespace Engine

variable {timings : Timings} {config : EngineConfig} {rules : RuleSet} {story : List Exchange}

theorem orderly_start (timings : Timings) : (start timings).Confined Request.IsOrderly true := by
  refine confined_start timings (fun _ steady => steady.orderly) fun handler => ⟨trivial, fun state => ?_⟩
  exact ⟨state.config_confirm handler, fun _ => state.isSome_found_confirm handler⟩

theorem hidesNone_receive (timings : Timings) (rules : RuleSet)
    (off : ¬(config.enabled = true ∧ config.enablePrehide = true)) :
    (receive timings (.initResponse config rules)).Confined Request.HidesNone true := by
  refine .andThen (confined_setUp timings config rules (fun _ steady => steady.orderly.1) (fun _ => trivial)
    trivial trivial fun enabled prehides => ?_) fun _ => .pure _
  exact absurd ⟨enabled, prehides⟩ off

/-- What is told once dialogs are hidden: the engine has looked up its configuration, and comes to an end. -/
structure Opened (later : List Exchange) : Prop where
  orderly : Allowed Request.IsOrderly later
  concludes : ∃ known : EngineState, ⟨.state, known⟩ ∈ later ∧ Concludes known.config.autoAction later

theorem begun_prehiding (timings : Timings) (prehides : config.enablePrehide = true) :
    Ban.begun timings config =
      prehide.bind fun _ => (waitUntilReady timings).bind fun _ => start timings := by
  unfold Ban.begun
  rw [prehides]
  rfl

theorem opened_receive (enabled : config.enabled = true) (prehides : config.enablePrehide = true)
    (steps : Steps (receive timings (.initResponse config rules)) story (.done ())) :
    ∃ known css reply later, Opened later ∧ story =
      ⟨.update fun state => { state with config := config }, ()⟩ ::
      ⟨.update fun state => (state.addRules rules).disable config.disabledCmps, ()⟩ ::
      ⟨.state, known⟩ :: ⟨.page (.appendStyle Hiding.passingStyle css), reply⟩ :: later := by
  rw [Life.receive_enabled rules enabled, begun_prehiding timings prehides] at steps
  -- The first requests are the same in every start; after them the engine waits for the page and starts to look.
  obtain ⟨_, afterFirst, rfl, registers⟩ := Steps.ask_iff.mp steps
  obtain ⟨_, afterSecond, rfl, begins⟩ := Steps.ask_iff.mp registers
  obtain ⟨value, begun, -⟩ := Steps.map_iff.mp begins
  obtain ⟨_, concealed, others, conceals, waits, rfl⟩ := Steps.bind_iff.mp begun
  obtain ⟨_, waiting, starting, waited, starts, rfl⟩ := Steps.bind_iff.mp waits
  obtain ⟨known, afterKnown, rfl, adds⟩ := Steps.ask_iff.mp conceals
  obtain ⟨reply, afterAdding, rfl, ends⟩ := Steps.ask_iff.mp adds
  have nothing : afterAdding = [] := by
    cases reply <;> exact (Steps.done_iff.mp ends).1
  subst nothing
  have calm : (waitUntilReady timings).Modest := waitUntilReady_modest timings
  have aside := (waited.confined (aside_modest calm)).2
  have orderly : (waitUntilReady timings).Confined Request.IsOrderly true :=
    (calm.weaken fun _ modest => (modest.steady fun _ => True).orderly).1
  obtain ⟨asked, member, concludes⟩ := concludes_start starts
  refine ⟨known, _, reply, waiting ++ starting, ⟨?_, asked, ?_, concludes.after aside⟩, rfl⟩
  · exact (waited.confined orderly).2.append (starts.confined (orderly_start timings)).2
  · exact List.mem_append_right waiting member

theorem conceals_opened {first last : Stage} {known : EngineState} {css : String} {reply : Except PageError Unit}
    {later : List Exchange} (unfound : first.ledger.engine.found = none)
    (follows : first.Follows Stage.Apart
      (⟨.update fun state => { state with config := config }, ()⟩ ::
      ⟨.update fun state => (state.addRules rules).disable config.disabledCmps, ()⟩ ::
      ⟨.state, known⟩ :: ⟨.page (.appendStyle Hiding.passingStyle css), reply⟩ :: later) last) :
    ∃ middle : Stage, middle.Conceals config ∧ middle.Follows Stage.Apart later last := by
  obtain ⟨start, configured, apart₁, ⟨configures, -⟩, follows⟩ := follows
  obtain ⟨begun, registered, apart₂, ⟨registers, -⟩, follows⟩ := follows
  obtain ⟨ready, looked, apart₃, ⟨⟨-, looks⟩, -⟩, quiet, hidden, apart₄, hides, follows⟩ := follows
  have nobody : configured.ledger.engine.found = none := by
    rw [show configured.ledger = start.ledger.update _ from configures]
    exact apart₁.found.trans unfound
  have knows : configured.ledger.engine.config = config := by
    rw [show configured.ledger = start.ledger.update _ from configures]
    rfl
  have same := EngineState.sameButRoster_addRules rules begun.ledger.engine
  have stillNobody : registered.ledger.engine.found = none := by
    rw [show registered.ledger = begun.ledger.update _ from registers]
    exact same.found.trans (apart₂.found.trans nobody)
  have stillKnows : registered.ledger.engine.config = config := by
    rw [show registered.ledger = begun.ledger.update _ from registers]
    exact same.config.trans (apart₂.config.trans knows)
  have ledger : hidden.ledger = quiet.ledger := hides.ledger
  refine ⟨hidden, ⟨Stage.brings_hidden quiet hidden apart₄.takes hides, ?_, ?_⟩, follows⟩
  · rw [ledger, apart₄.found, looks, apart₃.found, stillNobody]
  · rw [ledger, apart₄.config, looks, apart₃.config, stillKnows]

section Known

variable {first last : Stage} (knows : first.ledger.engine.config = config)
  (orderly : Allowed Request.IsOrderly story) (follows : first.Follows Stage.Aloof story last)

include knows orderly follows

theorem config_known {known : EngineState} (asked : ⟨.state, known⟩ ∈ story) : known.config = config := by
  have knowing : ∀ exchange ∈ story, Stage.Keeps (fun stage => stage.ledger.engine.config = config) exchange :=
    fun exchange told => Stage.keeps_config ((orderly exchange told).2.keepsConfig config)
  obtain ⟨now, informed, rfl⟩ := follows.known (fun aloof knew => aloof.config.trans knew) knowing knows asked
  exact informed

/-- Once the engine has shown again what was hidden, nothing is. -/
theorem shown_reverts (prehides : config.enablePrehide = true) (reverts : Reverts story) : ¬last.IsPrehidden := by
  obtain ⟨known, asked, shows⟩ := reverts
  have informed : known.config = config := config_known knows orderly follows asked
  obtain ⟨reply, removes⟩ := shows (informed ▸ prehides)
  refine follows.gained (fun aloof => aloof.takes) (fun aloof => aloof.shown) ?_ removes Stage.brings_shown
  exact fun exchange told => Stage.keeps_shown (orderly exchange told).1

end Known

/-- Whatever a start comes to, something is hidden afterwards only where a dialog was confirmed that is to be left
alone. -/
theorem isPrehidden_concluded {middle last : Stage} {later : List Exchange} (conceals : middle.Conceals config)
    (prehides : config.enablePrehide = true) (opened : Opened later)
    (follows : middle.Follows Stage.Apart later last) :
    last.IsPrehidden ↔ last.ledger.engine.found.isSome = true ∧ config.autoAction = .doNothing := by
  have aloofly : middle.Follows Stage.Aloof later last := follows.weaken fun apart => apart.aloof
  have shows : Reverts later → ¬last.IsPrehidden := shown_reverts conceals.knows opened.orderly aloofly prehides
  obtain ⟨asked, member, concludes⟩ := opened.concludes
  rw [config_known conceals.knows opened.orderly aloofly member] at concludes
  rcases concludes with ⟨reverts, leaves⟩ | ⟨⟨handler, confirms⟩, stays, reverts⟩
  · -- Nobody was confirmed, neither in the race nor before it.
    have unfound : last.ledger.engine.found = none := follows.kept (fun apart none => apart.found.trans none)
      (fun exchange told => Stage.keeps_unfound (leaves exchange told)) conceals.unfound
    refine iff_of_false (shows reverts) fun found => ?_
    rw [unfound] at found
    cases found.1
  · have found : last.ledger.engine.found.isSome = true := by
      refine follows.gained (fun apart => apart.takes) (fun apart held => apart.found ▸ held) ?_ confirms
        Stage.brings_found
      exact fun exchange told => Stage.keeps_found (opened.orderly exchange told).2
    by_cases nothing : config.autoAction = .doNothing
    · refine iff_of_true (follows.kept (fun apart held => ?_) ?_ conceals.hidden) ⟨found, nothing⟩
      · rwa [Stage.IsPrehidden, apart.hidden]
      · exact fun exchange told => Stage.keeps_hidden (stays nothing exchange told)
    · exact iff_of_false (shows (reverts nothing)) fun settled => nothing settled.2

theorem settled_on {first last : Stage} (enabled : config.enabled = true) (prehides : config.enablePrehide = true)
    (unfound : first.ledger.engine.found = none)
    (steps : Steps (receive timings (.initResponse config rules)) story (.done ()))
    (follows : first.Follows Stage.Apart story last) :
    last.IsPrehidden ↔ last.ledger.engine.found.isSome = true ∧ config.autoAction = .doNothing := by
  obtain ⟨known, css, reply, later, opened, rfl⟩ := opened_receive enabled prehides steps
  obtain ⟨middle, conceals, afterwards⟩ := conceals_opened unfound follows
  exact isPrehidden_concluded conceals prehides opened afterwards

/-- A start that is to hide nothing leaves nothing hidden, at any time. -/
theorem shown_off {first last : Stage} {flow : Flow Unit}
    (off : ¬(config.enabled = true ∧ config.enablePrehide = true)) (shown : ¬first.IsPrehidden)
    (steps : Steps (receive timings (.initResponse config rules)) story flow)
    (follows : first.Follows Stage.Apart story last) : ¬last.IsPrehidden := by
  have hides := (steps.confined (hidesNone_receive timings rules off)).2
  exact follows.kept (fun apart => apart.aloof.shown)
    (fun exchange told => Stage.keeps_shown (hides exchange told)) shown

/-- A start hides something only if it is to, and leaves it hidden only where a dialog was confirmed that is to be
left alone. -/
theorem isPrehidden_receive {first last : Stage} (unfound : first.ledger.engine.found = none)
    (shown : ¬first.IsPrehidden) (steps : Steps (receive timings (.initResponse config rules)) story (.done ()))
    (follows : first.Follows Stage.Apart story last) :
    last.IsPrehidden ↔ (config.enabled = true ∧ config.enablePrehide = true) ∧
      last.ledger.engine.found.isSome = true ∧ config.autoAction = .doNothing := by
  by_cases on : config.enabled = true ∧ config.enablePrehide = true
  · rw [settled_on on.1 on.2 unfound steps follows]
    exact (and_iff_right on).symm
  · exact iff_of_false (shown_off on shown steps follows) fun settled => on settled.1

theorem config_receive {first last : Stage}
    (steps : Steps (receive timings (.initResponse config rules)) story (.done ()))
    (follows : first.Follows Stage.Apart story last) : last.ledger.engine.config = config := by
  -- The first request sets the configuration, and every request keeps it once it is set, that one included.
  have confined : (receive timings (.initResponse config rules)).Confined (Request.KeepsConfig config) true := by
    refine .andThen (confined_setUp timings config rules (fun _ steady => steady.orderly.2.keepsConfig config)
      (fun handler state same => (state.config_confirm handler).trans same) (fun _ _ => rfl)
      (fun state same => ?_) fun _ _ _ => trivial) fun _ => .pure _
    exact (EngineState.sameButRoster_addRules rules state).config.trans same
  have keeps := (steps.confined confined).2
  obtain ⟨_, rest, rfl, -⟩ := Steps.ask_iff.mp steps
  refine follows.gained (fun apart => apart.takes) (fun apart knows => apart.config.trans knows)
    (fun exchange told => Stage.keeps_config (keeps exchange told)) List.mem_cons_self ?_
  intro before after _ replied
  rw [show after.ledger = before.ledger.update _ from replied.1]
  rfl

/-! ## Other commands -/

theorem orderly_receive (timings : Timings) {command : Inbound} (others : command.starts = false) :
    (receive timings command).Confined Request.IsOrderly true := by
  have calmly : ∀ {flow : Flow Bool}, Steady (fun _ => True) flow →
      (flow.bind fun _ => .done ()).Confined Request.IsOrderly true :=
    fun steady => .andThen (steady.weaken fun _ steady => steady.orderly).1 fun _ => .pure _
  cases command with
  | initResponse config rules => cases others
  | optOut => exact calmly (steady_execute timings trivial)
  | optIn => exact calmly (steady_execute timings trivial)
  | selfTest => exact calmly (steady_selfTest timings trivial)
  | evalResponse id result => exact .andThen (.request ⟨trivial, trivial⟩ trivial) fun _ => .pure _

/-- Those that decide nothing do not show either what is hidden. -/
theorem showsNone_receive (timings : Timings) {command : Inbound} (others : command.starts = false)
    (undecided : command.decides = false) : (receive timings command).Confined Request.ShowsNone true := by
  cases command with
  | initResponse config rules => cases others
  | optOut => cases undecided
  | optIn => cases undecided
  | selfTest =>
      have looks : ∀ known : EngineState,
          (attempt timings known.found .selfTest).Confined Request.ShowsNone true := by
        intro known
        cases known.found with
        | none => exact .pure _
        | some handler => exact confined_attempt timings (fun _ fits => fits.aside.1) fun _ => trivial
      refine .andThen ?_ fun _ => .pure _
      exact .andThen (.request trivial trivial) fun known => .andThen (looks known) fun result =>
        .andThen (.ask trivial _) fun url => .andThen (.request trivial trivial) fun _ => .pure _
  | evalResponse id result => exact .andThen (.request trivial trivial) fun _ => .pure _

theorem reverts_receive {command : Inbound} (decides : command.decides = true)
    (steps : Steps (receive timings command) story (.done ())) : Reverts story := by
  cases command with
  | optOut =>
      obtain ⟨_, executes, -⟩ := Steps.map_iff.mp steps
      exact reverts_execute executes
  | optIn =>
      obtain ⟨_, executes, -⟩ := Steps.map_iff.mp steps
      exact reverts_execute executes
  | _ => cases decides

/-! ## The rules that stay -/

theorem spares_prehide : prehide.Confined Request.SparesLasting true := by
  have apart : Hiding.passingStyle ≠ Hiding.lastingStyle := by decide
  exact .andThen (.request trivial trivial) fun known => .addRule apart

theorem spares_undoPrehide : undoPrehide.Confined Request.SparesLasting true := by
  have apart : Hiding.passingStyle ≠ Hiding.lastingStyle := by decide
  refine .andThen (.request trivial trivial) fun known => .ite ?_ (.pure _)
  exact .andThen (.andThen (.request apart trivial) fun _ => .pure _) fun _ => .pure _

end Engine

end ConsentBanner

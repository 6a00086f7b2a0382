import ConsentBanner.Proofs.Engine.Completion
import ConsentBanner.Proofs.Engine.Reversal
import ConsentBanner.Proofs.Flow.Enactment

/-!
# Visits

During a visit the host gives any number of commands about a page, and the engine carries them out side by side,
while the page changes by itself.  What a start leaves hidden for the time being waits for a decision: it is shown
again when the first one is done, and no other command hides it again.  Main statement: `Visit.prehide_reverts`.
-/

set_option autoImplicit false

namespace ConsentBanner

open Engine
open Flow (Confined Steps Allowed)

/-- A command about which nothing was told yet. -/
def Mandate.begun (timings : Timings) (command : Inbound) : Mandate := ⟨command, [], receive timings command⟩

/-- A page with its engine and all commands of its host. -/
structure Visit where
  stage : Stage
  mandates : List Mandate

namespace Visit

/-- One step of a visit in which some commands may begin: a command begins or goes on by a step, and the page and
everything else replies as it does.  Beside that, the page may change by itself, and handlers may be registered or
taken out. -/
inductive Step (timings : Timings) (begins : Inbound → Prop) : Visit → Visit → Prop where
  | aside {before after : Stage} {mandates : List Mandate} (apart : before.Apart after) :
      Step timings begins ⟨before, mandates⟩ ⟨after, mandates⟩
  | begin {stage : Stage} {mandates : List Mandate} (command : Inbound) (may : begins command) :
      Step timings begins ⟨stage, mandates⟩ ⟨stage, mandates ++ [.begun timings command]⟩
  | goOn {stage : Stage} {ahead behind : List Mandate} {mandate : Mandate} {flow : Flow Unit}
      (step : Flow.Step mandate.flow [] flow) :
      Step timings begins ⟨stage, ahead ++ mandate :: behind⟩
        ⟨stage, ahead ++ ⟨mandate.command, mandate.story, flow⟩ :: behind⟩
  | tell {before after : Stage} {ahead behind : List Mandate} {mandate : Mandate} {flow : Flow Unit}
      {exchange : Exchange} (step : Flow.Step mandate.flow [exchange] flow)
      (replied : before.MayReply exchange.request exchange.reply after) :
      Step timings begins ⟨before, ahead ++ mandate :: behind⟩
        ⟨after, ahead ++ ⟨mandate.command, mandate.story ++ [exchange], flow⟩ :: behind⟩

/-- Any number of steps, while calls that add rules to style elements or remove them do not fail. -/
inductive Reaches (timings : Timings) (begins : Inbound → Prop) (first : Visit) : Visit → Prop where
  | refl : Reaches timings begins first first
  | step {middle last : Visit} (reaches : Reaches timings begins first middle)
      (next : Step timings begins middle last) (takes : last.stage.page.TakesStyles) :
      Reaches timings begins first last

/-- A start is carried out by itself. -/
def Starting (timings : Timings) (config : EngineConfig) (rules : RuleSet) (first : Stage) : Visit → Prop :=
  Reaches timings (fun _ => False) ⟨first, [.begun timings (.initResponse config rules)]⟩

/-- What was told of a command is what it does, and a stage has followed it since the command began, whatever else
was done meanwhile. -/
structure Tends (timings : Timings) (meanwhile : Stage → Stage → Prop) (began now : Stage) (mandate : Mandate) :
    Prop where
  steps : Steps (receive timings mandate.command) mandate.story mandate.flow
  follows : began.Follows meanwhile mandate.story now

section Tends

variable {timings : Timings} {meanwhile : Stage → Stage → Prop} {began now after : Stage}
  {mandate : Mandate} {flow : Flow Unit} {exchange : Exchange}

theorem Tends.goOn (tends : Tends timings meanwhile began now mandate) (step : Flow.Step mandate.flow [] flow) :
    Tends timings meanwhile began now ⟨mandate.command, mandate.story, flow⟩ := by
  refine ⟨?_, tends.follows⟩
  rw [← mandate.story.append_nil]
  exact tends.steps.trans (.head step (.refl flow))

variable [IsTrans Stage meanwhile]

theorem Tends.later (tends : Tends timings meanwhile began now mandate) (changed : meanwhile now after) :
    Tends timings meanwhile began after mandate := by
  have more : now.Follows meanwhile [] after := changed
  refine ⟨tends.steps, ?_⟩
  rw [← mandate.story.append_nil]
  exact tends.follows.append more

theorem Tends.tell (tends : Tends timings meanwhile began now mandate) (same : meanwhile now now)
    (still : meanwhile after after) (step : Flow.Step mandate.flow [exchange] flow)
    (replied : now.MayReply exchange.request exchange.reply after) :
    Tends timings meanwhile began after ⟨mandate.command, mandate.story ++ [exchange], flow⟩ :=
  ⟨tends.steps.trans (.head step (.refl flow)), tends.follows.append ⟨now, after, same, replied, still⟩⟩

end Tends

variable {timings : Timings} {config : EngineConfig} {rules : RuleSet} {begins : Inbound → Prop}

/-! ## While a start goes on -/

/-- Nothing but a start is carried out, and a stage has followed it. -/
structure Starts (timings : Timings) (config : EngineConfig) (rules : RuleSet) (first : Stage) (visit : Visit) :
    Prop where
  takes : visit.stage.page.TakesStyles
  alone : ∃ story flow, visit.mandates = [⟨.initResponse config rules, story, flow⟩] ∧
    Tends timings Stage.Apart first visit.stage ⟨.initResponse config rules, story, flow⟩

theorem Starts.step {first : Stage} {visit next : Visit} (starts : Starts timings config rules first visit)
    (step : Step timings (fun _ => False) visit next) (still : next.stage.page.TakesStyles) :
    Starts timings config rules first next := by
  obtain ⟨takes, story, flow, alone, tends⟩ := starts
  cases step with
  | aside apart => exact ⟨still, story, flow, alone, tends.later apart⟩
  | begin command may => exact may.elim
  | goOn moves =>
      rcases List.append_eq_singleton_iff.mp alone with ⟨rfl, is⟩ | ⟨-, is⟩
      · cases is
        exact ⟨still, _, _, rfl, tends.goOn moves⟩
      · cases is
  | tell moves replied =>
      rcases List.append_eq_singleton_iff.mp alone with ⟨rfl, is⟩ | ⟨-, is⟩
      · cases is
        exact ⟨still, _, _, rfl, tends.tell (.refl takes) (.refl still) moves replied⟩
      · cases is

theorem Starts.reaches {first : Stage} {visit : Visit} (takes : first.page.TakesStyles)
    (starting : Starting timings config rules first visit) : Starts timings config rules first visit := by
  induction starting with
  | refl => exact ⟨takes, [], _, rfl, .refl _, .refl takes⟩
  | step _ next still ih => exact ih.step next still

/-! ## Afterwards -/

/-- The engine is configured, whatever goes on hides nothing, and a stage has followed every decision. -/
structure Abides (timings : Timings) (config : EngineConfig) (visit : Visit) : Prop where
  takes : visit.stage.page.TakesStyles
  knows : visit.stage.ledger.engine.config = config
  orderly : ∀ mandate ∈ visit.mandates, mandate.flow.Confined Request.IsOrderly true
  tends : ∀ mandate ∈ visit.mandates, mandate.command.decides = true → ∃ began : Stage,
    began.ledger.engine.config = config ∧ Tends timings Stage.Aloof began visit.stage mandate

theorem aloof_reply {before after : Stage} {exchange : Exchange} (orderly : exchange.request.IsOrderly)
    (replied : before.MayReply exchange.request exchange.reply after) (takes : after.page.TakesStyles) :
    before.Aloof after :=
  ⟨Stage.keeps_shown orderly.1 before after replied,
    Stage.keeps_config (orderly.2.keepsConfig _) before after replied rfl, takes⟩

theorem Abides.step {visit next : Visit} (abides : Abides timings config visit)
    (step : Step timings (fun command => command.starts = false) visit next)
    (still : next.stage.page.TakesStyles) : Abides timings config next ∧ visit.stage.Aloof next.stage := by
  obtain ⟨takes, knows, orderly, tends⟩ := abides
  cases step with
  | aside apart =>
      refine ⟨⟨still, apart.config.trans knows, orderly, fun mandate member decides => ?_⟩, apart.aloof⟩
      obtain ⟨began, configured, tending⟩ := tends mandate member decides
      exact ⟨began, configured, tending.later apart.aloof⟩
  | @begin stage mandates command may =>
      refine ⟨⟨still, knows, ?_, fun mandate member decides => ?_⟩, (Stage.Apart.refl still).aloof⟩
      · exact List.forall_mem_append.mpr ⟨orderly, List.forall_mem_singleton.mpr (orderly_receive timings may)⟩
      · rcases List.mem_append.mp member with old | new
        · exact tends mandate old decides
        · obtain rfl := List.mem_singleton.mp new
          exact ⟨stage, knows, .refl _, (Stage.Apart.refl still).aloof⟩
  | @goOn stage ahead behind own flow moves =>
      refine ⟨⟨still, knows, fun mandate member => ?_, fun mandate member decides => ?_⟩,
        (Stage.Apart.refl still).aloof⟩
      · rcases mem_replace own member with rfl | old
        · exact (moves.confined (orderly own (by simp))).1
        · exact orderly mandate old
      · rcases mem_replace own member with rfl | old
        · obtain ⟨began, configured, tending⟩ := tends own (by simp) decides
          exact ⟨began, configured, tending.goOn moves⟩
        · exact tends mandate old decides
  | @tell before after ahead behind own flow exchange moves replied =>
      -- The exchange goes into the story of its own command; the others see that the stage has changed.
      obtain ⟨onward, allowed⟩ := moves.confined (orderly own (by simp))
      have aloof := aloof_reply (allowed exchange List.mem_cons_self) replied still
      refine ⟨⟨still, aloof.config.trans knows, fun mandate member => ?_, fun mandate member decides => ?_⟩, aloof⟩
      · rcases mem_replace own member with rfl | old
        · exact onward
        · exact orderly mandate old
      · rcases mem_replace own member with rfl | old
        · obtain ⟨began, configured, tending⟩ := tends own (by simp) decides
          have same : before.Aloof before := (Stage.Apart.refl takes).aloof
          exact ⟨began, configured, tending.tell same (Stage.Apart.refl still).aloof moves replied⟩
        · obtain ⟨began, configured, tending⟩ := tends mandate old decides
          exact ⟨began, configured, tending.later aloof⟩

theorem Abides.reaches {visit last : Visit} (abides : Abides timings config visit)
    (reaches : Reaches timings (fun command => command.starts = false) visit last) :
    Abides timings config last ∧ (¬visit.stage.IsPrehidden → ¬last.stage.IsPrehidden) := by
  induction reaches with
  | refl => exact ⟨abides, id⟩
  | step _ next still ih =>
      obtain ⟨abided, shown⟩ := ih
      obtain ⟨abides, aloof⟩ := abided.step next still
      exact ⟨abides, aloof.shown ∘ shown⟩

/-- Once a decision is done, nothing is hidden any more. -/
theorem Abides.shown {visit : Visit} (abides : Abides timings config visit)
    (prehides : config.enablePrehide = true) {mandate : Mandate} (member : mandate ∈ visit.mandates)
    (decides : mandate.command.decides = true) (ends : mandate.flow = .done ()) : ¬visit.stage.IsPrehidden := by
  obtain ⟨began, configured, tending⟩ := abides.tends mandate member decides
  have steps : Steps (receive timings mandate.command) mandate.story (.done ()) := ends ▸ tending.steps
  have orderly := (steps.confined (orderly_receive timings (Inbound.starts_of_decides decides))).2
  exact shown_reverts configured orderly tending.follows prehides (reverts_receive decides steps)

/-- While no decision is made, what is hidden stays so. -/
structure Hides (visit : Visit) : Prop where
  hidden : visit.stage.IsPrehidden
  waits : ∀ mandate ∈ visit.mandates, mandate.flow.Confined Request.ShowsNone true

theorem Hides.step {visit next : Visit} (hides : Hides visit)
    (step : Step timings (fun command => command.starts = false ∧ command.decides = false) visit next) :
    Hides next := by
  obtain ⟨hidden, waits⟩ := hides
  cases step with
  | aside apart => exact ⟨by rwa [Stage.IsPrehidden, apart.hidden], waits⟩
  | begin command may =>
      refine ⟨hidden, List.forall_mem_append.mpr ⟨waits, List.forall_mem_singleton.mpr ?_⟩⟩
      exact showsNone_receive timings may.1 may.2
  | @goOn stage ahead behind own flow moves =>
      refine ⟨hidden, fun mandate member => ?_⟩
      rcases mem_replace own member with rfl | old
      · exact (moves.confined (waits own (by simp))).1
      · exact waits mandate old
  | @tell before after ahead behind own flow exchange moves replied =>
      obtain ⟨onward, allowed⟩ := moves.confined (waits own (by simp))
      have shows := allowed exchange List.mem_cons_self
      refine ⟨Stage.keeps_hidden shows before after replied hidden, fun mandate member => ?_⟩
      rcases mem_replace own member with rfl | old
      · exact onward
      · exact waits mandate old

theorem Hides.reaches {visit last : Visit} (hides : Hides visit)
    (reaches : Reaches timings (fun command => command.starts = false ∧ command.decides = false) visit last) :
    Hides last := by
  induction reaches with
  | refl => exact hides
  | step _ next _ ih => exact ih.step next

/-! ## Runs are visits -/

theorem alwaysTakes_reply {before after : Stage} {exchange : Exchange} (always : before.page.AlwaysTakesStyles)
    (replied : before.MayReply exchange.request exchange.reply after) : after.page.AlwaysTakesStyles := by
  obtain ⟨request, reply⟩ := exchange
  cases request with
  | page call =>
      obtain ⟨-, rfl⟩ := replied
      exact always.perform call
  | _ => exact replied.2 ▸ always

/-- A command that goes on by itself, as the stage follows it. -/
theorem Reaches.enact {first : Visit} {command : Inbound} {flow after : Flow Unit} {story : List Exchange}
    (steps : Steps flow story after) (ahead : List Mandate) :
    ∀ {before later : Stage} {told : List Exchange}, before.Follows Eq story later →
      before.page.AlwaysTakesStyles → Reaches timings begins first ⟨before, ahead ++ [⟨command, told, flow⟩]⟩ →
        later.page.AlwaysTakesStyles ∧
          ∃ whole, Reaches timings begins first ⟨later, ahead ++ [⟨command, whole, after⟩]⟩ := by
  induction steps with
  | refl =>
      rintro before later told rfl always reaches
      exact ⟨always, told, reaches⟩
  | @head flow between after told story step _ ih =>
      intro before later past follows always reaches
      rcases step.single with rfl | ⟨exchange, rfl⟩
      · exact ih follows always (reaches.step (.goOn step) always.takes)
      · obtain ⟨_, middle, rfl, replied, onward⟩ := follows
        have still := alwaysTakes_reply always replied
        exact ih onward still (reaches.step (.tell step replied) still.takes)

theorem starting_run (timings : Timings) (config : EngineConfig) (rules : RuleSet) {world : World}
    (always : world.page.AlwaysTakesStyles) :
    ((receive timings (.initResponse config rules)).run world).2.page.AlwaysTakesStyles ∧
      ∃ story, Starting timings config rules world.stage
        ⟨((receive timings (.initResponse config rules)).run world).2.stage,
          [⟨.initResponse config rules, story, ((receive timings (.initResponse config rules)).run world).1⟩]⟩ := by
  obtain ⟨story, steps, follows⟩ := (receive timings (.initResponse config rules)).run_enacts world
  exact Reaches.enact steps [] follows always .refl

theorem reaches_run (timings : Timings) {command : Inbound} (may : begins command) {world : World}
    (always : world.page.AlwaysTakesStyles) (mandates : List Mandate) :
    ∃ story, Reaches timings begins ⟨world.stage, mandates⟩ ⟨((receive timings command).run world).2.stage,
      mandates ++ [⟨command, story, ((receive timings command).run world).1⟩]⟩ := by
  obtain ⟨story, steps, follows⟩ := (receive timings command).run_enacts world
  exact (Reaches.enact steps mandates follows always (.step .refl (.begin command may) always.takes)).2

/-! ## All of it -/

theorem Reaches.weaken {more : Inbound → Prop} {first last : Visit}
    (wider : ∀ command, begins command → more command) (reaches : Reaches timings begins first last) :
    Reaches timings more first last := by
  induction reaches with
  | refl => exact .refl
  | step _ next takes ih =>
      refine ih.step ?_ takes
      cases next with
      | aside apart => exact .aside apart
      | begin command may => exact .begin command (wider command may)
      | goOn moves => exact .goOn moves
      | tell moves replied => exact .tell moves replied

/-- A visit in which a start was carried out by itself and is done. -/
def started (config : EngineConfig) (rules : RuleSet) (last : Stage) (story : List Exchange) : Visit :=
  ⟨last, [⟨.initResponse config rules, story, .done ()⟩]⟩

/-- What becomes of what is hidden for the time being once a start is done. -/
structure HidesUntilDecided (timings : Timings) (config : EngineConfig) (done : Visit) : Prop where
  /-- Something is hidden only where a dialog was confirmed that is to be left alone. -/
  settled : done.stage.IsPrehidden ↔ (config.enabled = true ∧ config.enablePrehide = true) ∧
    done.stage.ledger.engine.found.isSome = true ∧ config.autoAction = .doNothing
  /-- It waits for a decision. -/
  waits : ∀ visit,
    Reaches timings (fun command => command.starts = false ∧ command.decides = false) done visit →
      (visit.stage.IsPrehidden ↔ done.stage.IsPrehidden)
  /-- The first decision that is done shows it, whatever came of it. -/
  shows : ∀ visit, Reaches timings (fun command => command.starts = false) done visit →
    ∀ mandate ∈ visit.mandates, mandate.command.decides = true → mandate.flow = .done () → ¬visit.stage.IsPrehidden
  /-- No command hides anything again. -/
  stays : ∀ visit later, Reaches timings (fun command => command.starts = false) done visit →
    Reaches timings (fun command => command.starts = false) visit later →
      ¬visit.stage.IsPrehidden → ¬later.stage.IsPrehidden

section Started

variable {first last : Stage} {story : List Exchange}
  (starts : Starts timings config rules first (started config rules last story))

include starts

theorem tends_started : Tends timings Stage.Apart first last ⟨.initResponse config rules, story, .done ()⟩ := by
  obtain ⟨-, told, flow, alone, tends⟩ := starts
  obtain ⟨rfl, rfl⟩ : story = told ∧ Flow.done () = flow := by simpa [started] using alone
  exact tends

theorem abides_started : Abides timings config (started config rules last story) := by
  have tends := tends_started starts
  refine ⟨starts.takes, config_receive tends.steps tends.follows, ?_, ?_⟩
  · exact List.forall_mem_singleton.mpr trivial
  · exact List.forall_mem_singleton.mpr nofun

theorem hidesUntilDecided_started (unfound : first.ledger.engine.found = none) (shown : ¬first.IsPrehidden) :
    HidesUntilDecided timings config (started config rules last story) := by
  have abides := abides_started starts
  have tends := tends_started starts
  have settled := isPrehidden_receive unfound shown tends.steps tends.follows
  refine ⟨settled, fun visit reaches => ⟨?_, fun hidden => ?_⟩,
    fun visit reaches mandate member decides ends => ?_, fun visit later reaches further => ?_⟩
  · exact not_imp_not.mp (abides.reaches (reaches.weaken fun _ => And.left)).2
  · exact (Hides.reaches ⟨hidden, List.forall_mem_singleton.mpr trivial⟩ reaches).hidden
  · obtain ⟨abided, stays⟩ := abides.reaches reaches
    by_cases prehides : config.enablePrehide = true
    · exact abided.shown prehides member decides ends
    · exact stays fun hidden => prehides (settled.mp hidden).1.2
  · exact ((abides.reaches reaches).1.reaches further).2

end Started

/-- What was hidden for the time being is shown again: when a start is done that was carried out by itself,
something is still hidden only where a dialog was confirmed that is to be left alone, and then until the first
decision is done.  A start that is not to hide anything never does.  The rules that stay are left alone by all
of this. -/
theorem prehide_reverts (timings : Timings) {first : Stage} (unfound : first.ledger.engine.found = none)
    (shown : ¬first.IsPrehidden) (takes : first.page.TakesStyles) (config : EngineConfig) (rules : RuleSet) :
    (∀ last story, Starting timings config rules first (started config rules last story) →
      HidesUntilDecided timings config (started config rules last story)) ∧
    (¬(config.enabled = true ∧ config.enablePrehide = true) →
      ∀ visit, Starting timings config rules first visit → ¬visit.stage.IsPrehidden) ∧
    ∀ story, ((∃ flow, Steps prehide story flow) ∨ ∃ flow, Steps undoPrehide story flow) →
      ∀ exchange ∈ story, Stage.KeepsLasting exchange := by
  refine ⟨fun last story starting => hidesUntilDecided_started (.reaches takes starting) unfound shown, ?_, ?_⟩
  · intro off visit starting
    obtain ⟨-, story, flow, -, tends⟩ := Starts.reaches takes starting
    exact shown_off off shown tends.steps tends.follows
  · intro story tells exchange told
    have spares : Allowed Request.SparesLasting story := by
      rcases tells with ⟨flow, steps⟩ | ⟨flow, steps⟩
      · exact (steps.confined spares_prehide).2
      · exact (steps.confined spares_undoPrehide).2
    exact Stage.keeps_lasting (spares exchange told)

/-- A page with a handler whose dialog shows at once. -/
def promptly : World := untouchedPage (.ofText "") [Life.banner "one"]

/-- A dialog that is to be left alone stays hidden until opting out is done. -/
theorem prehide_reverts_promptly : ∃ last story visit,
    Starting .usual .initial .empty promptly.stage (started .initial .empty last story) ∧ last.IsPrehidden ∧
      Reaches .usual (fun command => command.starts = false) (started .initial .empty last story) visit ∧
      (∃ mandate ∈ visit.mandates, mandate.command = .optOut ∧ mandate.flow = .done ()) ∧
      ¬visit.stage.IsPrehidden := by
  have always : promptly.page.AlwaysTakesStyles := ⟨⟨rfl, rfl⟩, List.forall_mem_nil _⟩
  obtain ⟨still, story, starting⟩ := starting_run .usual .initial .empty always
  have startEnds : ((receive .usual (.initResponse .initial .empty)).run promptly).1.value? = some () := by
    decide +kernel
  have found : ((receive .usual (.initResponse .initial .empty)).run promptly).2.engine.found.isSome = true := by
    decide +kernel
  have optOutEnds : ((receive .usual .optOut).run
      ((receive .usual (.initResponse .initial .empty)).run promptly).2).1.value? = some () := by decide +kernel
  generalize (receive .usual (.initResponse .initial .empty)).run promptly = result
    at still starting startEnds found optOutEnds
  obtain ⟨flow, world⟩ := result
  obtain rfl := Flow.value?_eq_some.mp startEnds
  obtain ⟨told, reaches⟩ := @reaches_run (fun command => command.starts = false) .usual .optOut rfl world still
    [⟨.initResponse .initial .empty, story, .done ()⟩]
  have shown : ¬promptly.stage.IsPrehidden := Bool.false_ne_true
  have hides := (prehide_reverts .usual rfl shown always.takes .initial .empty).1 _ story starting
  rw [Flow.value?_eq_some.mp optOutEnds] at reaches
  have opted : ⟨.optOut, told, .done ()⟩ ∈
      [⟨.initResponse .initial .empty, story, .done ()⟩] ++ [(⟨.optOut, told, .done ()⟩ : Mandate)] := by simp
  exact ⟨_, story, _, starting, hides.settled.mpr ⟨⟨rfl, rfl⟩, found, rfl⟩, reaches, ⟨_, opted, rfl, rfl⟩,
    hides.shows _ reaches _ opted rfl rfl⟩

end Visit

end ConsentBanner

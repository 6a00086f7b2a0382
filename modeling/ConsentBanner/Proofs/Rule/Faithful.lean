import ConsentBanner.Proofs.Handler.Modest
import ConsentBanner.Proofs.Rehearsal.Still

/-!
# Steps do what they mean

On a page that stands still every step does what it means: `Rehearsal.understood`.  Its parts are taken one by
one, from the primitives to sequences of steps, and each of them unfolds to its meaning whenever it begins.
-/

set_option autoImplicit false

namespace ConsentBanner

/-- A flow does what a meaning says, whenever it begins. -/
def Flow.Means {α : Type} (scene : Scene) (flow : Flow α) (meaning : Meaning α) : Prop :=
  ∀ now, flow.Unfolds scene now [] meaning.value (now + meaning.duration) (meaning.clicks now)

namespace Flow.Means

variable {scene : Scene} {α β γ : Type} {flow : Flow α} {meaning : Meaning α}

theorem plain (value : α) : (Flow.done value).Means scene (.plain value) := fun now => .done value now

theorem andThen {f : α → Flow β} {next : α → Meaning β} (first : flow.Means scene meaning)
    (second : (f meaning.value).Means scene (next meaning.value)) :
    (flow.bind f).Means scene (meaning.andThen next) := by
  intro now
  have onward := second (now + meaning.duration)
  rw [Nat.add_assoc] at onward
  exact (first now).bind onward

/-- What follows on a value that is there at once. -/
theorem next {f : α → Flow β} {value : α} {meaning : Meaning β} (first : flow.Means scene (.plain value))
    (second : (f value).Means scene meaning) : (flow.bind f).Means scene meaning := by
  intro now
  have whole : Unfolds scene now (flow.bind f) [] meaning.value (now + meaning.duration) (1 * meaning.clicks now) :=
    (first now).bind (second now)
  rwa [one_mul] at whole

theorem map {f : α → β} (first : flow.Means scene meaning) :
    (flow.bind fun value => .done (f value)).Means scene (meaning.map f) := by
  intro now
  have whole : Unfolds scene now (flow.bind fun value => .done (f value)) [] (f meaning.value)
      (now + meaning.duration) (meaning.clicks now * 1) := (first now).bind (.done _ _)
  rwa [mul_one] at whole

theorem beside {left : Flow α} {right : Flow β} {one : Meaning α} {two : Meaning β} (f : α × β → γ)
    (first : left.Means scene one) (second : right.Means scene two) :
    (Flow.both left right fun a b => .done (f (a, b))).Means scene ((one.beside two).map f) := by
  intro now
  have whole : Unfolds scene now (.both left right fun a b => .done (f (a, b))) [] (f (one.value, two.value))
      (max (now + one.duration) (now + two.duration)) ((one.clicks now).beside (two.clicks now) * 1) :=
    .both (first now) (second now) (.done _ _)
  rwa [mul_one, Nat.add_max_add_left] at whole

theorem all {run : γ → Flow α} {means : γ → Meaning α} {entries : List γ}
    (each : ∀ entry ∈ entries, (run entry).Means scene (means entry)) :
    (Flow.all (entries.map run)).Means scene (.all (entries.map means)) := by
  induction entries with
  | nil => exact plain []
  | cons entry rest ih =>
      have first := each entry List.mem_cons_self
      have others := ih fun other member => each other (List.mem_cons_of_mem entry member)
      exact first.beside (fun values => values.1 :: values.2) others

/-! ## What is done to the page -/

theorem look {call : PageCall α} {otherwise value : α} (isPlain : call.IsPlain) (nothing : scene.clicked call = [])
    (seen : Primitive.orElse (scene.page.reply call).1 otherwise = value) :
    (Primitive.ask call otherwise).Means scene (.plain value) := by
  intro now
  have whole : Unfolds scene now (Primitive.ask call otherwise) []
      (Primitive.orElse (scene.page.perform call).1 otherwise) now (.on now (scene.clicked call) * 1) :=
    .page isPlain (.done _ _)
  rwa [mul_one, scene.perform_eq, seen, nothing] at whole

theorem query (selector : String) : (Primitive.query selector).Means scene (.plain (scene.found selector)) := by
  refine look trivial rfl ?_
  rw [Snapshot.reply, Scene.found]
  cases scene.page.query .document selector <;> rfl

theorem nodeVisible (node : NodeId) : (Primitive.nodeVisible node).Means scene (.plain (scene.sees node)) := by
  refine look trivial rfl ?_
  rw [Snapshot.reply, Scene.sees]
  cases scene.page.live node <;> rfl

theorem isPresent (selector : String) :
    (Primitive.isPresent selector).Means scene (.plain !(scene.found selector).isEmpty) :=
  (query selector).map

theorem visibilities (nodes : List NodeId) :
    (Primitive.visibilities nodes).Means scene (.plain (nodes.map scene.sees)) := by
  induction nodes with
  | nil => exact plain []
  | cons node rest ih => exact (nodeVisible node).next ih.map

theorem isVisible (selector : String) (mode : VisibilityMode) :
    (Primitive.isVisible selector mode).Means scene (.plain (scene.shows selector mode)) :=
  (query selector).next (visibilities _).map

theorem clickEach {nodes : List NodeId} (live : ∀ node ∈ nodes, scene.clicked (.click node) = [node]) :
    (Primitive.clickEach nodes).Means scene ⟨(), 0, fun now => .on now nodes⟩ := by
  induction nodes with
  | nil => exact plain ()
  | cons node rest ih =>
      intro now
      have others := ih fun other member => live other (List.mem_cons_of_mem node member)
      have whole : Unfolds scene now (Primitive.clickEach (node :: rest)) [] () now
          (.on now (scene.clicked (.click node)) * .on now rest) := .page trivial (others now)
      rwa [live node List.mem_cons_self, ← Clicks.on_append] at whole

theorem clicked_of_found {selector : String} {node : NodeId} (found : node ∈ scene.found selector) :
    scene.clicked (.click node) = [node] := by
  have attached : scene.page.isAttached node = true := by
    rw [Scene.found, Snapshot.query] at found
    cases read : Selector.ofText? selector with
    | none => rw [read] at found; cases found
    | some selector =>
        rw [read] at found
        exact (List.mem_filter.mp found).2
  have known : (scene.page.document.element? node).isSome = true := (Bool.and_eq_true_iff.mp attached).1
  obtain ⟨element, isElement⟩ := Option.isSome_iff_exists.mp known
  have live : scene.page.live node = .ok element := by
    rw [Snapshot.live, isElement]
    exact if_pos attached
  rw [Scene.clicked, live]

theorem click (selector : String) (all : Bool) :
    (Primitive.click selector all).Means scene (scene.clicking selector all) := by
  have live : ∀ node ∈ (if all then scene.found selector else (scene.found selector).take 1),
      scene.clicked (.click node) = [node] := by
    intro node member
    cases all with
    | true => exact clicked_of_found member
    | false => exact clicked_of_found (List.mem_of_mem_take member)
  exact (query selector).next (clickEach live).map

theorem hide (selectors : List String) (method : HideMethod) :
    (Primitive.hide selectors method).Means scene (.plain !selectors.isEmpty) := by
  intro now
  have whole : Unfolds scene now (Primitive.hide selectors method) [] (!selectors.isEmpty) now (.on now [] * 1) := by
    refine .page trivial ?_
    rw [scene.perform_eq]
    exact .done _ _
  rwa [mul_one] at whole

/-! ## What takes time -/

/-- On a page that stands still a wait is over at once or takes all its time. -/
theorem poll {attempt : Flow Bool} {holds : Bool} (once : attempt.Means scene (.plain holds)) (interval : Nat) :
    ∀ retries, (Flow.poll attempt interval retries).Means scene
      ⟨holds, if holds then 0 else retries * interval, fun _ => 1⟩
  | 0 => by
      rw [Nat.zero_mul, ite_self]
      exact once
  | retries + 1 => by
      have again := poll once interval retries
      refine once.next ?_
      cases holds with
      | true => exact plain true
      | false =>
          intro now
          have onward := again (now + interval)
          have sum : now + interval + retries * interval = now + (retries + 1) * interval := by
            rw [Nat.succ_mul]
            omega
          exact .sleep (sum ▸ onward)

theorem waitForElement (selector : String) (limit : Nat) :
    (Primitive.waitForElement scene.timings selector limit).Means scene
      (scene.waited (!(scene.found selector).isEmpty) limit) := poll (isPresent selector) _ _

theorem waitForVisible (selector : String) (limit : Nat) (mode : VisibilityMode) :
    (Primitive.waitForVisible scene.timings selector limit mode).Means scene
      (scene.waited (scene.shows selector mode) limit) := poll (isVisible selector mode) _ _

theorem wait (time : Nat) : (Primitive.wait time).Means scene ⟨true, time, fun _ => 1⟩ :=
  fun now => .sleep (.done true (now + time))

/-- What a request for page script comes to counts as true. -/
def holds : Except ConsentError Json → Bool
  | .ok value => value.isTruthy
  | .error _ => false

theorem eval_eq (timings : Timings) (code : String) :
    Primitive.eval timings code = (Primitive.request timings code).bind fun outcome => .done (holds outcome) := by
  refine (bind_assoc _ _ _).trans (congrArg _ (funext fun outcome => ?_))
  cases outcome <;> rfl

theorem eval (code : String) : (Primitive.eval scene.timings code).Means scene (scene.evaluated code) := by
  intro now
  have comes : ∀ id, holds (scene.reply code id) = (scene.evaluated code).value := by
    intro id
    rw [Scene.reply, Scene.evaluated]
    cases scene.answer? code with
    | none => rfl
    | some value => by_cases zero : scene.timings.eval = 0 <;> simp [zero, holds, Meaning.plain]
  have takes : scene.delay code = (scene.evaluated code).duration := by
    rw [Scene.delay, Scene.evaluated]
    cases scene.answer? code <;> rfl
  have nothing : (scene.evaluated code).clicks now = 1 := by
    rw [Scene.evaluated]
    cases scene.answer? code <;> rfl
  rw [eval_eq, nothing, ← takes]
  exact .request fun id => comes id ▸ .done _ _

theorem check (check : StepCheck) : (check.run scene.timings).Means scene (check.meaning scene) := by
  cases check with
  | «exists» selector => exact isPresent _
  | visible selector mode => exact isVisible _ _
  | eval code => exact eval _
  | waitFor selector limit => exact waitForElement _ _
  | waitForVisible selector limit mode => exact waitForVisible _ _ _
  | click selector all => exact click _ _
  | waitForThenClick selector limit all => exact (waitForElement _ _).andThen (click _ _)
  | wait time => exact wait _
  | hide selectors method => exact hide _ _

mutual

theorem step : ∀ step : RuleStep, (step.run scene.timings).Means scene (step.meaning scene)
  | ⟨checks, none, _⟩ => by
      rw [RuleStep.run, RuleStep.meaning]
      exact (all fun one _ => check one).beside (fun values => stepOutcome (values.1 ++ values.2.toList)) (plain none)
  | ⟨checks, some branching, _⟩ => by
      rw [RuleStep.run, RuleStep.meaning]
      exact (all fun one _ => check one).beside (fun values => stepOutcome (values.1 ++ values.2.toList))
        (conditional branching)

theorem conditional : ∀ branching : Conditional,
    (branching.run scene.timings).Means scene (branching.meaning scene)
  | ⟨test, thenSteps, none⟩ => by
      rw [Conditional.run, Conditional.meaning]
      split
      · refine (step test).andThen ?_
        split
        · exact (inOrder thenSteps).map
        · exact plain none
      · exact plain (some false)
  | ⟨test, thenSteps, some elseSteps⟩ => by
      rw [Conditional.run, Conditional.meaning]
      split
      · refine (step test).andThen ?_
        split
        · exact (inOrder thenSteps).map
        · exact (inOrder elseSteps).map
      · exact plain (some false)

theorem inOrder : ∀ steps : List RuleStep, (runInOrder scene.timings steps).Means scene (sequenceMeaning scene steps)
  | [] => by
      rw [runInOrder, sequenceMeaning]
      exact plain true
  | one :: others => by
      rw [runInOrder, sequenceMeaning]
      refine (step one).andThen ?_
      split
      · exact inOrder others
      · exact plain false

end

theorem sideBySide (steps : List RuleStep) :
    (runSideBySide scene.timings steps).Means scene (besideMeaning scene steps) :=
  (all fun one _ => step one).map

end Flow.Means

/-! ## What is played -/

namespace Rehearsal

/-- A flow is played to its end and does what a meaning says. -/
def Fulfils {α : Type} (rehearsal : Rehearsal) (flow : Flow α) (meaning : Meaning α) : Prop :=
  ∃ enough, ∀ fuel, enough ≤ fuel →
    Performs meaning.value (rehearsal.world.clock + meaning.duration) (meaning.clicks rehearsal.world.clock)
      rehearsal flow fuel

structure Understood (rehearsal : Rehearsal) (scene : Scene) : Prop where
  step : ∀ step : RuleStep, rehearsal.Fulfils (step.run scene.timings) (step.meaning scene)
  inOrder : ∀ steps, rehearsal.Fulfils (runInOrder scene.timings steps) (sequenceMeaning scene steps)
  sideBySide : ∀ steps, rehearsal.Fulfils (runSideBySide scene.timings steps) (besideMeaning scene steps)
  /-- What is clicked, and when, does not depend on the order that a meaning leaves open. -/
  settled : (∀ step : RuleStep, (step.meaning scene).Settled) ∧
    ∀ steps, (sequenceMeaning scene steps).Settled ∧ (besideMeaning scene steps).Settled
  step_true : ∀ step : RuleStep, (step.meaning scene).value = true ↔
    step.results scene ≠ [] ∧ ∀ result ∈ step.results scene, result = true
  /-- A step takes as long as the longest of its checks and its conditional. -/
  step_duration : ∀ (step : RuleStep) (time : Nat), (step.meaning scene).duration ≤ time ↔
    (∀ check ∈ step.checks, (check.meaning scene).duration ≤ time) ∧ (step.branch scene).duration ≤ time
  inOrder_true : ∀ steps, (sequenceMeaning scene steps).value = true ↔
    ∀ step ∈ steps, (step.meaning scene).value = true ∨ step.isOptional = true
  sideBySide_true : ∀ steps, (besideMeaning scene steps).value = true ↔
    ∀ step ∈ steps, (step.meaning scene).value = true

theorem IsStill.fulfils {α : Type} {rehearsal : Rehearsal} {timings : Timings} (still : rehearsal.IsStill)
    {flow : Flow α} {meaning : Meaning α} (means : flow.Means (rehearsal.scene timings still) meaning)
    (modest : flow.Modest) : rehearsal.Fulfils flow meaning := by
  obtain ⟨value, last, enough, plays, -⟩ := plays rehearsal modest
  have looks := Snapshot.Looks.refl rehearsal.world.page
  have poised : Poised (rehearsal.scene timings still) flow [] meaning.value _ _ rehearsal :=
    ⟨⟨looks, still.agenda, still.prompt, fun _ => rfl⟩,
      ⟨looks, still.numbered, still.heard, List.nodup_nil, nofun⟩, means rehearsal.world.clock⟩
  exact ⟨enough, fun fuel fits => poised.performs fuel (plays fuel fits)⟩

/-- Where nothing happens by itself every step is played to its end, comes to what it means, takes the time that
it means and clicks what it means and when, in one of the orders that its meaning allows.  So do steps in order
and side by side. -/
theorem understood (rehearsal : Rehearsal) (timings : Timings) (still : rehearsal.IsStill) :
    rehearsal.Understood (rehearsal.scene timings still) where
  step step := still.fulfils (.step step) (.step timings step)
  inOrder steps := still.fulfils (.inOrder steps) (.inOrder timings steps)
  sideBySide steps := still.fulfils (.sideBySide steps) (.sideBySide timings steps)
  settled := ⟨.step, fun steps => ⟨.inOrder steps, .sideBySide steps⟩⟩
  step_true := RuleStep.meaning_true
  step_duration := RuleStep.meaning_duration
  inOrder_true := sequenceMeaning_true
  sideBySide_true := besideMeaning_true

/-- A rehearsal that just began stands still if the page has no hooks and nothing is planned. -/
theorem isStill_start (page : Snapshot) (hooks : page.hooks = []) (failing : page.failing = []) (hasHost : Bool) :
    (start (.start page) [] [] hasHost).IsStill where
  hooks := hooks
  failing := failing
  agenda := rfl
  prompt _ _ _ _ := nofun
  numbered _ mentioned := by rcases mentioned with ⟨⟨⟩⟩ | unanswered | ⟨_, ⟨⟩⟩; exact absurd rfl unanswered
  heard := Nat.le_refl 0

/-- A step that waits in vain while its conditional clicks. -/
theorem understood_waits :
    let page := Snapshot.ofText "<p id=\"banner\"><button>Reject</button></p>"
    let test := RuleStep.single (.exists "#banner")
    let inner := RuleStep.single (.waitForThenClick "button" 500 false)
    let step : RuleStep := ⟨[.waitFor "#gone" 1000], some ⟨test, [inner], none⟩, false⟩
    ∃ enough, ∀ fuel, enough ≤ fuel →
      ∃ last, playFlow fuel (start (.start page) [] [] true) (step.run .usual) = (some false, last) ∧
        last.world.clock = 1000 := by
  intro page test inner step
  obtain ⟨enough, performs⟩ := (understood _ .usual (isStill_start page rfl rfl true)).step step
  have value : (step.meaning (scene _ .usual (isStill_start page rfl rfl true))).value = false := by
    decide +kernel
  have duration : (step.meaning (scene _ .usual (isStill_start page rfl rfl true))).duration = 1000 := by
    decide +kernel
  refine ⟨enough, fun fuel fits => ⟨_, Prod.ext ?_ rfl, ?_⟩⟩
  · exact (performs fuel fits).value.trans (congrArg some value)
  · exact (performs fuel fits).clock.trans ((Nat.zero_add _).trans duration)

end Rehearsal

end ConsentBanner

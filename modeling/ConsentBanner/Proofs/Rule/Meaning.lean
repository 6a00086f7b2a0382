import ConsentBanner.Proofs.Page.Still
import ConsentBanner.Rule.Run
import Mathlib.Computability.Language
import Mathlib.Order.CompletePartialOrder

/-!
# What steps mean

On a page that stands still a step has a meaning of its own: what it comes to, how long it takes, and what it
clicks and when.  The meaning of a step is put together from the meanings of its parts, with no regard to how
they are run.
-/

set_option autoImplicit false

namespace ConsentBanner

/-- A list is made up of two others, each of them in its own order. -/
inductive Interleaves {α : Type} : List α → List α → List α → Prop where
  | nil : Interleaves [] [] []
  | left {entry : α} {one two all : List α} (rest : Interleaves one two all) :
      Interleaves (entry :: one) two (entry :: all)
  | right {entry : α} {one two all : List α} (rest : Interleaves one two all) :
      Interleaves one (entry :: two) (entry :: all)

theorem Interleaves.behind {α : Type} {one two all : List α} (interleaves : Interleaves one two all)
    (first second : List α) : Interleaves (first ++ one) (second ++ two) (first ++ second ++ all) := by
  induction first with
  | nil =>
      induction second with
      | nil => exact interleaves
      | cons _ _ ih => exact ih.right
  | cons _ _ ih => exact ih.left

theorem Interleaves.perm {α : Type} {one two all : List α} (interleaves : Interleaves one two all) :
    all.Perm (one ++ two) := by
  induction interleaves with
  | nil => exact .refl _
  | left _ ih => exact ih.cons _
  | right _ ih => exact (ih.cons _).trans List.perm_middle.symm

/-- The orders in which clicks may come, each click with its time. -/
abbrev Clicks : Type := Language (Nat × NodeId)

namespace Clicks

/-- Clicks on some elements, one after the other, all at one time. -/
def on (time : Nat) (nodes : List NodeId) : Clicks := {nodes.map fun node => (time, node)}

/-- Clicks side by side come in any order, but those of one side in theirs. -/
def beside (left right : Clicks) : Clicks :=
  {all : List (Nat × NodeId) | ∃ one ∈ left, ∃ two ∈ right, Interleaves one two all}

theorem on_append (time : Nat) (first second : List NodeId) :
    on time (first ++ second) = on time first * on time second := by
  rw [Language.mul_def, on, on, on, List.map_append]
  exact Set.image2_singleton.symm

theorem beside_mono {left right less other : Clicks} (one : less ≤ left) (two : other ≤ right) :
    less.beside other ≤ left.beside right := by
  rintro all ⟨first, isFirst, second, isSecond, interleaves⟩
  exact ⟨first, one isFirst, second, two isSecond, interleaves⟩

theorem one_beside : (1 : Clicks) ≤ beside 1 1 := by
  rintro all rfl
  exact ⟨[], rfl, [], rfl, .nil⟩

/-- Where both sides begin with clicks of theirs, those of one side may come before those of the other. -/
theorem on_beside (time : Nat) (first second : List NodeId) (left right : Clicks) :
    on time (first ++ second) * left.beside right ≤ (on time first * left).beside (on time second * right) := by
  rintro all member
  obtain ⟨begin, rfl, rest, ⟨one, isOne, two, isTwo, interleaves⟩, rfl⟩ := Language.mem_mul.mp member
  rw [List.map_append]
  exact ⟨_, Language.append_mem_mul rfl isOne, _, Language.append_mem_mul rfl isTwo, interleaves.behind _ _⟩

/-- The orders are orders of the same clicks. -/
def Settled (clicks : Clicks) : Prop := ∀ one ∈ clicks, ∀ other ∈ clicks, one.Perm other

namespace Settled

variable {clicks more : Clicks}

theorem on (time : Nat) (nodes : List NodeId) : (Clicks.on time nodes).Settled := by
  rintro one rfl other rfl
  exact .refl _

theorem mul (first : clicks.Settled) (second : more.Settled) : (clicks * more).Settled := by
  rintro one ⟨begin, isBegin, rest, isRest, rfl⟩ other ⟨begin', isBegin', rest', isRest', rfl⟩
  exact (first _ isBegin _ isBegin').append (second _ isRest _ isRest')

theorem beside (left : clicks.Settled) (right : more.Settled) : (clicks.beside more).Settled := by
  rintro one ⟨begin, isBegin, rest, isRest, all⟩ other ⟨begin', isBegin', rest', isRest', all'⟩
  have same := (left _ isBegin _ isBegin').append (right _ isRest _ isRest')
  exact all.perm.trans (same.trans all'.perm.symm)

end Settled

end Clicks

/-- What something comes to, how long it takes, and how it may click if it begins at a time. -/
structure Meaning (α : Type) where
  value : α
  duration : Nat
  clicks : Nat → Clicks

namespace Meaning

variable {α β : Type}

/-- A value at once. -/
def plain (value : α) : Meaning α := ⟨value, 0, fun _ => 1⟩

def map (f : α → β) (meaning : Meaning α) : Meaning β := { meaning with value := f meaning.value }

/-- One thing after the other. -/
def andThen (first : Meaning α) (next : α → Meaning β) : Meaning β :=
  let second := next first.value
  ⟨second.value, first.duration + second.duration,
    fun begin => first.clicks begin * second.clicks (begin + first.duration)⟩

/-- Two things side by side. -/
def beside (left : Meaning α) (right : Meaning β) : Meaning (α × β) :=
  ⟨(left.value, right.value), max left.duration right.duration,
    fun begin => (left.clicks begin).beside (right.clicks begin)⟩

/-- Many things side by side. -/
def all : List (Meaning α) → Meaning (List α)
  | [] => plain []
  | first :: rest => (first.beside (all rest)).map fun values => values.1 :: values.2

end Meaning

namespace Scene

variable (scene : Scene)

/-- The elements that a selector finds. -/
def found (selector : String) : List NodeId :=
  match scene.page.query .document selector with
  | .ok nodes => nodes
  | .error _ => []

/-- An element can be seen. -/
def sees (node : NodeId) : Bool :=
  match scene.page.live node with
  | .ok element => scene.page.isVisible node element
  | .error _ => false

/-- The elements that a selector finds can be seen. -/
def shows (selector : String) (mode : VisibilityMode) : Bool :=
  Primitive.judge mode ((scene.found selector).map scene.sees)

/-- A wait for what is there or never comes. -/
def waited (holds : Bool) (limit : Nat) : Meaning Bool :=
  ⟨holds, if holds then 0 else scene.timings.attemptsFor limit * scene.timings.poll, fun _ => 1⟩

def clicking (selector : String) (all : Bool) : Meaning Bool :=
  let nodes := scene.found selector
  ⟨!nodes.isEmpty, 0, fun begin => .on begin (if all then nodes else nodes.take 1)⟩

/-- The value of page script counts as true.  It is false without an answer in time. -/
def evaluated (code : String) : Meaning Bool :=
  match scene.answer? code with
  | some value => .plain (scene.timings.eval != 0 && value.isTruthy)
  | none => ⟨false, scene.timings.eval, fun _ => 1⟩

end Scene

def StepCheck.meaning (scene : Scene) : StepCheck → Meaning Bool
  | .exists selector => .plain !(scene.found selector).isEmpty
  | .visible selector mode => .plain (scene.shows selector mode)
  | .eval code => scene.evaluated code
  | .waitFor selector limit => scene.waited (!(scene.found selector).isEmpty) limit
  | .waitForVisible selector limit mode => scene.waited (scene.shows selector mode) limit
  | .click selector all => scene.clicking selector all
  | .waitForThenClick selector limit all =>
    (scene.waited (!(scene.found selector).isEmpty) limit).andThen fun _ => scene.clicking selector all
  | .wait time => ⟨true, time, fun _ => 1⟩
  | .hide selectors _ => .plain !selectors.isEmpty

mutual

/-- What a step means: its checks and its conditional side by side, whatever each of them comes to. -/
def RuleStep.meaning (scene : Scene) : RuleStep → Meaning Bool
  | ⟨checks, conditional, _⟩ =>
    let results := Meaning.all (checks.map (StepCheck.meaning scene))
    let branch : Meaning (Option Bool) :=
      match conditional with
      | none => .plain none
      | some conditional => conditional.meaning scene
    (results.beside branch).map fun values =>
      let results := values.1 ++ values.2.toList
      !results.isEmpty && results.all fun ok => ok

/-- What a conditional means: its test and then the branch that it chooses. -/
def Conditional.meaning (scene : Scene) : Conditional → Meaning (Option Bool)
  | ⟨test, thenSteps, elseSteps⟩ =>
    if test.isValidCondition then
      (test.meaning scene).andThen fun holds =>
        if holds then (sequenceMeaning scene thenSteps).map some
        else
          match elseSteps with
          | none => .plain none
          | some steps => (sequenceMeaning scene steps).map some
    else .plain (some false)

/-- What steps mean one after the other: the first that fails and may not is the last. -/
def sequenceMeaning (scene : Scene) : List RuleStep → Meaning Bool
  | [] => .plain true
  | step :: rest =>
    (step.meaning scene).andThen fun succeeded =>
      if succeeded || step.isOptional then sequenceMeaning scene rest else .plain false

end

/-- What steps mean side by side. -/
def besideMeaning (scene : Scene) (steps : List RuleStep) : Meaning Bool :=
  (Meaning.all (steps.map (RuleStep.meaning scene))).map fun results => results.all fun ok => ok

/-! ## What steps come to and how long they take -/

variable {scene : Scene}

theorem Meaning.all_value {α : Type} (meanings : List (Meaning α)) :
    (all meanings).value = meanings.map Meaning.value := by
  induction meanings with
  | nil => rfl
  | cons first rest ih => exact congrArg (first.value :: ·) ih

def RuleStep.branch (scene : Scene) (step : RuleStep) : Meaning (Option Bool) :=
  match step.conditional with
  | none => .plain none
  | some conditional => conditional.meaning scene

theorem RuleStep.meaning_eq (step : RuleStep) : step.meaning scene =
    ((Meaning.all (step.checks.map (StepCheck.meaning scene))).beside (step.branch scene)).map
      fun values => stepOutcome (values.1 ++ values.2.toList) := by
  obtain ⟨_, branch, _⟩ := step
  cases branch <;> rw [meaning] <;> rfl

/-- What the checks of a step and its conditional come to. -/
def RuleStep.results (scene : Scene) (step : RuleStep) : List Bool :=
  step.checks.map (fun check => (check.meaning scene).value) ++ (step.branch scene).value.toList

theorem RuleStep.meaning_true (step : RuleStep) : (step.meaning scene).value = true ↔
    step.results scene ≠ [] ∧ ∀ result ∈ step.results scene, result = true := by
  have value : (step.meaning scene).value = stepOutcome (step.results scene) := by
    rw [meaning_eq, results]
    change stepOutcome ((Meaning.all _).value ++ _) = _
    rw [Meaning.all_value, List.map_map]
    rfl
  rw [value, stepOutcome, Bool.and_eq_true, List.all_eq_true]
  simp

theorem Meaning.all_duration {α : Type} (meanings : List (Meaning α)) (time : Nat) :
    (all meanings).duration ≤ time ↔ ∀ meaning ∈ meanings, meaning.duration ≤ time := by
  induction meanings with
  | nil => exact iff_of_true (Nat.zero_le time) nofun
  | cons first rest ih =>
      rw [List.forall_mem_cons, ← ih]
      exact max_le_iff

theorem RuleStep.meaning_duration (step : RuleStep) (time : Nat) : (step.meaning scene).duration ≤ time ↔
    (∀ check ∈ step.checks, (check.meaning scene).duration ≤ time) ∧ (step.branch scene).duration ≤ time := by
  have longest := Meaning.all_duration (step.checks.map (StepCheck.meaning scene)) time
  rw [List.forall_mem_map] at longest
  rw [meaning_eq]
  exact max_le_iff.trans (and_congr_left' longest)

theorem sequenceMeaning_true (steps : List RuleStep) : (sequenceMeaning scene steps).value = true ↔
    ∀ step ∈ steps, (step.meaning scene).value = true ∨ step.isOptional = true := by
  induction steps with
  | nil =>
      rw [sequenceMeaning]
      exact iff_of_true rfl nofun
  | cons step rest ih =>
      rw [sequenceMeaning, List.forall_mem_cons, ← ih, ← Bool.or_eq_true]
      change Meaning.value (if _ then _ else _) = true ↔ _
      split
      next onward => exact (and_iff_right onward).symm
      next fails => exact iff_of_false nofun fun both => fails both.1

theorem besideMeaning_true (steps : List RuleStep) : (besideMeaning scene steps).value = true ↔
    ∀ step ∈ steps, (step.meaning scene).value = true := by
  change (Meaning.all _).value.all _ = true ↔ _
  rw [Meaning.all_value]
  simp

/-! ## What is clicked does not depend on the order -/

namespace Meaning

/-- What is clicked, and when, does not depend on the order. -/
def Settled {α : Type} (meaning : Meaning α) : Prop := ∀ begin, (meaning.clicks begin).Settled

namespace Settled

variable {α β : Type} {scene : Scene}

theorem idle (value : α) (duration : Nat) : Settled ⟨value, duration, fun _ => 1⟩ := fun begin => .on begin []

theorem andThen {first : Meaning α} {next : α → Meaning β} (one : first.Settled)
    (two : (next first.value).Settled) : (first.andThen next).Settled :=
  fun begin => (one begin).mul (two (begin + first.duration))

theorem all {meanings : List (Meaning α)} (each : ∀ meaning ∈ meanings, meaning.Settled) :
    (Meaning.all meanings).Settled := by
  induction meanings with
  | nil => exact idle [] 0
  | cons first rest ih =>
      obtain ⟨one, others⟩ := List.forall_mem_cons.mp each
      exact fun begin => (one begin).beside (ih others begin)

theorem check (check : StepCheck) : (check.meaning scene).Settled := by
  have clicking : ∀ selector all, (scene.clicking selector all).Settled := fun _ _ begin => .on begin _
  cases check with
  | eval code =>
      rw [StepCheck.meaning, Scene.evaluated]
      split
      · exact idle _ _
      · exact idle _ _
  | click selector all => exact clicking selector all
  | waitForThenClick selector limit all => exact (idle _ _).andThen (clicking selector all)
  | _ => exact idle _ _

mutual

theorem step : ∀ step : RuleStep, (step.meaning scene).Settled
  | ⟨checks, none, _⟩ => by
      rw [RuleStep.meaning]
      exact fun begin => (all (List.forall_mem_map.mpr fun one _ => check one) begin).beside (idle none 0 begin)
  | ⟨checks, some branching, _⟩ => by
      rw [RuleStep.meaning]
      exact fun begin =>
        (all (List.forall_mem_map.mpr fun one _ => check one) begin).beside (conditional branching begin)

theorem conditional : ∀ branching : Conditional, (branching.meaning scene).Settled
  | ⟨test, thenSteps, none⟩ => by
      rw [Conditional.meaning]
      split
      · refine (step test).andThen ?_
        split
        · exact inOrder thenSteps
        · exact idle none 0
      · exact idle (some false) 0
  | ⟨test, thenSteps, some elseSteps⟩ => by
      rw [Conditional.meaning]
      split
      · refine (step test).andThen ?_
        split
        · exact inOrder thenSteps
        · exact inOrder elseSteps
      · exact idle (some false) 0

theorem inOrder : ∀ steps : List RuleStep, (sequenceMeaning scene steps).Settled
  | [] => by
      rw [sequenceMeaning]
      exact idle true 0
  | one :: others => by
      rw [sequenceMeaning]
      refine (step one).andThen ?_
      split
      · exact inOrder others
      · exact idle false 0

end

theorem sideBySide (steps : List RuleStep) : (besideMeaning scene steps).Settled :=
  all (List.forall_mem_map.mpr fun one _ => step one)

end Settled

end Meaning

end ConsentBanner

import ConsentBanner.Proofs.Flow.Failing
import ConsentBanner.Proofs.Lists

/-!
# Flows that stay on known ground

A flow is grounded if every call that it makes fits the elements that it has found so far.  Being grounded is
kept by what flows are put together with, and whatever the page replies, the calls in the story of a grounded
flow fit what the story has found before them (`Steps.grounded`).
-/

set_option autoImplicit false

namespace ConsentBanner

/-- What may be asked of a page by somebody who has found some elements. -/
abbrev Footing : Type 1 := List NodeId → {α : Type} → PageCall α → Prop

/-- The elements that a reply to a call names. -/
def PageCall.found : {α : Type} → PageCall α → Except PageError α → List NodeId
  | _, .queryAll _ _, .ok nodes => nodes
  | _, _, _ => []

/-- The elements that an exchange finds. -/
def Exchange.found : Exchange → List NodeId
  | ⟨.page call, reply⟩ => call.found reply
  | _ => []

/-- The elements that a story finds. -/
def foundIn (story : List Exchange) : List NodeId := story.flatMap Exchange.found

@[simp] theorem foundIn_nil : foundIn [] = [] := rfl

@[simp] theorem foundIn_cons (exchange : Exchange) (story : List Exchange) :
    foundIn (exchange :: story) = exchange.found ++ foundIn story := rfl

@[simp] theorem foundIn_append (first second : List Exchange) :
    foundIn (first ++ second) = foundIn first ++ foundIn second := List.flatMap_append

def Exchange.Fits (may : Footing) (known : List NodeId) : Exchange → Prop
  | ⟨.page call, _⟩ => may known call
  | _ => False

def IsGrounded (may : Footing) : List NodeId → List Exchange → Prop
  | _, [] => True
  | known, exchange :: rest => exchange.Fits may known ∧ IsGrounded may (known ++ exchange.found) rest

theorem isGrounded_append {may : Footing} {known : List NodeId} {first second : List Exchange} :
    IsGrounded may known (first ++ second) ↔
      IsGrounded may known first ∧ IsGrounded may (known ++ foundIn first) second := by
  induction first generalizing known with
  | nil => simp [IsGrounded]
  | cons exchange rest ih => simp [IsGrounded, ih, and_assoc]

namespace Flow

/-- A flow makes no requests but calls to the page that may be made, given what it has found, waits for nothing
but time, and in the end has a value that is good for what it has found. -/
inductive Grounded {α : Type} (may : Footing) (good : α → List NodeId → Prop) : List NodeId → Flow α → Prop where
  | done {known : List NodeId} {value : α} (ends : good value known) : Grounded may good known (.done value)
  | page {β : Type} {known : List NodeId} {call : PageCall β} {next : Except PageError β → Flow α}
      (allowed : may known call) (onward : ∀ reply, Grounded may good (known ++ call.found reply) (next reply)) :
      Grounded may good known (.ask (.page call) next)
  | sleep {known : List NodeId} {time : Nat} {next : Flow α} (onward : Grounded may good known next) :
      Grounded may good known (.sleep time next)
  | asleep {known : List NodeId} {due order : Nat} {next : Flow α} (onward : Grounded may good known next) :
      Grounded may good known (.asleep due order next)

namespace Grounded

variable {α β ε : Type} {may : Footing} {good : α → List NodeId → Prop} {fine : β → List NodeId → Prop}
  {known : List NodeId} {flow : Flow α}

theorem bind {f : α → Flow β} (first : Grounded may good known flow)
    (onward : ∀ value later, known ⊆ later → good value later → Grounded may fine later (f value)) :
    Grounded may fine known (flow.bind f) := by
  induction first with
  | done ends => exact onward _ _ (List.Subset.refl _) ends
  | page allowed _ ih =>
      refine .page allowed fun reply => ih reply fun value later grown => onward value later ?_
      exact List.Subset.trans (List.subset_append_left _ _) grown
  | sleep _ ih => exact .sleep (ih onward)
  | asleep _ ih => exact .asleep (ih onward)

/-- More may be asked, and less may be known of the value. -/
theorem weaken {more : Footing} {loose : α → List NodeId → Prop} (first : Grounded may good known flow)
    (wider : ∀ {β : Type} (call : PageCall β) later, known ⊆ later → may later call → more later call)
    (looser : ∀ value later, known ⊆ later → good value later → loose value later) :
    Grounded more loose known flow := by
  induction first with
  | done ends => exact .done (looser _ _ (List.Subset.refl _) ends)
  | page allowed _ ih =>
      refine .page (wider _ _ (List.Subset.refl _) allowed) fun reply => ih reply ?_ ?_
      · exact fun call later grown => wider call later (List.Subset.trans (List.subset_append_left _ _) grown)
      · exact fun value later grown => looser value later (List.Subset.trans (List.subset_append_left _ _) grown)
  | sleep _ ih => exact .sleep (ih wider looser)
  | asleep _ ih => exact .asleep (ih wider looser)

theorem poll {attempt : Flow Bool} (interval : Nat)
    (grounded : ∀ later, known ⊆ later → Grounded may (fun _ _ => True) later attempt) (retries : Nat) :
    Grounded may (fun _ _ => True) known (Flow.poll attempt interval retries) := by
  induction retries generalizing known with
  | zero => exact grounded known (List.Subset.refl _)
  | succ retries ih =>
      refine (grounded known (List.Subset.refl _)).bind fun yes later grown _ => ?_
      cases yes with
      | true => exact .done trivial
      | false => exact .sleep (ih fun last more => grounded last (List.Subset.trans grown more))

/-! ## Flows that may fail -/

def OrFails (good : α → List NodeId → Prop) : Except ε α → List NodeId → Prop
  | .ok value, known => good value known
  | .error _, _ => True

theorem okay {value : α} (ends : good value known) :
    Grounded may (OrFails good) known (Pure.pure value : ExceptT ε Flow α).run := .done ends

theorem chain {first : ExceptT ε Flow α} {f : α → ExceptT ε Flow β}
    (grounded : Grounded may (OrFails good) known first.run)
    (onward : ∀ value later, known ⊆ later → good value later → Grounded may (OrFails fine) later (f value).run) :
    Grounded may (OrFails fine) known (first >>= f).run := by
  refine grounded.bind fun outcome later grown ends => ?_
  cases outcome with
  | ok value => exact onward value later grown ends
  | error error => exact .done trivial

theorem lift (grounded : Grounded may good known flow) :
    Grounded may (OrFails good) known (ExceptT.lift flow : ExceptT ε Flow α).run :=
  grounded.bind fun _ _ _ ends => .done ends

end Grounded

/-! ## Stories of grounded flows -/

variable {α : Type} {may : Footing} {good : α → List NodeId → Prop} {known : List NodeId} {flow after : Flow α}
  {told story : List Exchange}

theorem Step.grounded (step : Step flow told after) (grounded : Grounded may good known flow) :
    IsGrounded may known told ∧ Grounded may good (known ++ foundIn told) after := by
  cases grounded with
  | done _ => cases step
  | page allowed onward =>
      cases step with
      | ask _ _ reply =>
          rw [foundIn_cons, foundIn_nil, List.append_nil]
          exact ⟨⟨allowed, trivial⟩, onward reply⟩
  | sleep onward =>
      cases step with
      | lieDown => exact ⟨trivial, .asleep ((List.append_nil known).symm ▸ onward)⟩
      | skip => exact ⟨trivial, (List.append_nil known).symm ▸ onward⟩
  | asleep onward =>
      cases step with
      | wake => exact ⟨trivial, (List.append_nil known).symm ▸ onward⟩

theorem Steps.grounded (steps : Steps flow story after) (grounded : Grounded may good known flow) :
    IsGrounded may known story ∧ Grounded may good (known ++ foundIn story) after := by
  induction steps generalizing known with
  | refl => exact ⟨trivial, (List.append_nil known).symm ▸ grounded⟩
  | head step _ ih =>
      obtain ⟨first, onward⟩ := step.grounded grounded
      obtain ⟨others, last⟩ := ih onward
      rw [foundIn_append, ← List.append_assoc]
      exact ⟨isGrounded_append.mpr ⟨first, others⟩, last⟩

end Flow

end ConsentBanner

import ConsentBanner.Action.Run
import ConsentBanner.Proofs.Flow.Story
import ConsentBanner.Proofs.Rehearsal.Sequence

/-!
# Flows that may fail

Flows are a lawful monad, and so are flows that may fail.  Where two of those follow one another, a failure of
the first is one of both, and nothing else is told (`Steps.chain_iff`).  What a flow comes to can be changed
without changing what happens on the way (`Rehearsal.playFlow_map`).
-/

set_option autoImplicit false

namespace ConsentBanner

variable {α β ε : Type}

instance : LawfulMonad Flow := .mk' Flow Flow.bind_done (fun _ _ => rfl) fun flow f g => Flow.bind_assoc g f flow

namespace Flow

/-- What a flow does it does whatever follows. -/
theorem Step.bind (f : α → Flow β) {flow after : Flow α} {told : List Exchange} (step : Step flow told after) :
    Step (flow.bind f) told (after.bind f) := by
  cases step with
  | ask request next reply => exact .ask request _ reply
  | lieDown time due order next => exact .lieDown time due order _
  | skip time next => exact .skip time _
  | wake due order next => exact .wake due order _
  | answered id next reply => exact .answered id _ reply
  | left step => exact .left step
  | right step => exact .right step
  | join a b next => exact .join a b _
  | either step => exact .either step
  | other step => exact .other step
  | leftFirst a right next => exact .leftFirst a right _
  | rightFirst left b next => exact .rightFirst left b _
  | lane step => exact .lane step
  | win won => exact .win won
  | leave noticed => exact .leave noticed
  | winner step => exact .winner step
  | lost winner next => exact .lost winner _
  | decided value next => exact .decided value _

theorem Steps.afterReply (request : Request β) {next : β → Flow α} {after : Flow α} {story : List Exchange}
    (reply : β) (rest : Steps (next reply) story after) :
    Steps (.ask request next) (⟨request, reply⟩ :: story) after := .head (.ask request next reply) rest

/-- Two flows in sequence are done when both are, and tell what both tell. -/
theorem Steps.bind_iff {flow : Flow α} {f : α → Flow β} {story : List Exchange} {result : β} :
    Steps (flow.bind f) story (.done result) ↔ ∃ value one two,
      Steps flow one (.done value) ∧ Steps (f value) two (.done result) ∧ story = one ++ two := by
  constructor
  · intro steps
    rcases steps.ofBind with ⟨moved, pending, -, is⟩ | split
    · have still := value?_bind (f := f) pending
      rw [← is] at still
      cases still
    · exact split
  · rintro ⟨value, one, two, first, second, rfl⟩
    have within : Steps (flow.bind f) one (f value) := first.lift fun step => step.bind f
    exact within.trans second

theorem Steps.done_iff {value result : α} {story : List Exchange} :
    Steps (.done value) story (.done result) ↔ story = [] ∧ result = value := by
  constructor
  · intro steps
    obtain ⟨is, rfl⟩ := steps.ofDone
    exact ⟨rfl, Flow.done.inj is⟩
  · rintro ⟨rfl, rfl⟩
    exact .refl _

/-- A request is told first, with its reply. -/
theorem Steps.ask_iff {request : Request β} {next : β → Flow α} {story : List Exchange} {result : α} :
    Steps (.ask request next) story (.done result) ↔
      ∃ reply rest, story = ⟨request, reply⟩ :: rest ∧ Steps (next reply) rest (.done result) := by
  constructor
  · intro steps
    rcases steps.ofAsk with ⟨-, is⟩ | told
    · cases is
    · exact told
  · rintro ⟨reply, rest, rfl, onward⟩
    exact .afterReply request reply onward

theorem Steps.request_iff {request : Request α} {reply : α} {story : List Exchange} :
    Steps (Flow.request request) story (.done reply) ↔ story = [⟨request, reply⟩] := by
  refine Steps.ask_iff.trans ⟨?_, ?_⟩
  · rintro ⟨reply', rest, rfl, ends⟩
    obtain ⟨rfl, rfl⟩ := Steps.done_iff.mp ends
    rfl
  · rintro rfl
    exact ⟨reply, [], rfl, .refl _⟩

theorem Steps.map_iff {flow : Flow α} {f : α → β} {story : List Exchange} {result : β} :
    Steps (flow.bind fun value => .done (f value)) story (.done result) ↔
      ∃ value, Steps flow story (.done value) ∧ result = f value := by
  refine Steps.bind_iff.trans ⟨?_, ?_⟩
  · rintro ⟨value, one, two, first, second, rfl⟩
    obtain ⟨rfl, rfl⟩ := Steps.done_iff.mp second
    exact ⟨value, (List.append_nil one).symm ▸ first, rfl⟩
  · rintro ⟨value, steps, rfl⟩
    exact ⟨value, story, [], steps, .refl _, (List.append_nil story).symm⟩

/-- A failure of the first of two flows ends both. -/
theorem Steps.chain_iff {flow : ExceptT ε Flow α} {f : α → ExceptT ε Flow β} {story : List Exchange}
    {outcome : Except ε β} :
    Steps (flow >>= f).run story (.done outcome) ↔
      (∃ value one two, Steps flow.run one (.done (.ok value)) ∧ Steps (f value).run two (.done outcome) ∧
        story = one ++ two) ∨
      ∃ error, Steps flow.run story (.done (.error error)) ∧ outcome = .error error := by
  refine Steps.bind_iff.trans ⟨?_, ?_⟩
  · rintro ⟨ended, one, two, first, second, rfl⟩
    cases ended with
    | ok value => exact .inl ⟨value, one, two, first, second, rfl⟩
    | error error =>
        obtain ⟨rfl, rfl⟩ := Steps.done_iff.mp second
        exact .inr ⟨error, (List.append_nil one).symm ▸ first, rfl⟩
  · rintro (⟨value, one, two, first, second, rfl⟩ | ⟨error, first, rfl⟩)
    · exact ⟨.ok value, one, two, first, second, rfl⟩
    · exact ⟨.error error, story, [], first, .refl _, (List.append_nil story).symm⟩

/-- Where only the value of a success is changed, a failure stays as it is. -/
theorem run_chain_pure (flow : ExceptT ε Flow α) (f : α → β) :
    (flow >>= fun value => pure (f value)).run = flow.run.bind fun outcome => .done (outcome.map f) := by
  refine congrArg flow.run.bind (funext fun outcome => ?_)
  cases outcome <;> rfl

end Flow

namespace Rehearsal

/-- A flow with another value at its end is played in the same way. -/
theorem playFlow_map (f : α → β) (fuel : Nat) : ∀ (rehearsal : Rehearsal) (flow : Flow α),
    playFlow fuel rehearsal (flow.bind fun value => .done (f value)) =
      ((playFlow fuel rehearsal flow).1.map f, (playFlow fuel rehearsal flow).2) := by
  induction fuel with
  | zero => exact fun _ _ => rfl
  | succ fuel ih =>
      intro rehearsal flow
      have both := flow.run_bind (fun value => .done (f value)) rehearsal.world
      rw [playFlow, playFlow]
      generalize flow.run rehearsal.world = result at both ⊢
      obtain ⟨moved, world⟩ := result
      rw [both, Flow.andThen]
      cases pending : moved.value? with
      | some value =>
          obtain rfl := Flow.value?_eq_some.mp pending
          rfl
      | none =>
          have still := Flow.value?_bind (f := fun value => .done (f value)) pending
          simp only [pending, still, Flow.readyAt_bind _ pending, Flow.nextDue_bind pending, ih]
          split
          · rfl
          · split
            · rfl
            · split <;> rfl

end Rehearsal

/-! ## Actions in sequence -/

variable {timings : Timings} {consents : List Category} {scope : Scope}

theorem runActions_append (front back : List Action) :
    runActions timings (front ++ back) consents scope =
      runActions timings front consents scope >>= fun _ => runActions timings back consents scope := by
  induction front with
  | nil =>
      rw [List.nil_append, runActions]
      exact (pure_bind () fun _ => runActions timings back consents scope).symm
  | cons action rest ih => rw [List.cons_append, runActions, runActions, ih, bind_assoc]

theorem runConsentRules_append (front back : List ConsentRule) :
    runConsentRules timings (front ++ back) consents scope =
      runConsentRules timings front consents scope >>= fun _ => runConsentRules timings back consents scope := by
  induction front with
  | nil =>
      rw [List.nil_append, runConsentRules]
      exact (pure_bind () fun _ => runConsentRules timings back consents scope).symm
  | cons rule rest ih => rw [List.cons_append, runConsentRules, runConsentRules, ih, bind_assoc]

end ConsentBanner

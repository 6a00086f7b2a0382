import ConsentBanner.Handler.Run
import ConsentBanner.Proofs.Flow.Failing

/-!
# What the methods of a rule add up to

To decide, a method rule runs the actions of some of its methods, and one list of those actions does the same:
`Handler.methods_follow`.  The first action that fails is the last one that is run.
-/

set_option autoImplicit false

namespace ConsentBanner

open Rehearsal (playFlow)

/-- Runs actions one after the other, each with purposes of its own to be allowed. -/
def runEach (timings : Timings) : List (Action × List Category) → Deed Unit
  | [] => pure ()
  | (action, consents) :: rest => do
    action.run timings consents .document
    runEach timings rest

variable {timings : Timings}

open Flow (Steps)

/-- Actions in sequence fail as the first of them that fails, and nothing is told after that. -/
theorem runEach_fails {calls : List (Action × List Category)} {story : List Exchange} {error : ConsentError} :
    Steps (runEach timings calls).run story (.done (.error error)) ↔
      ∃ before failing after one two, calls = before ++ failing :: after ∧
        Steps (runEach timings before).run one (.done (.ok ())) ∧
        Steps (failing.1.run timings failing.2 .document).run two (.done (.error error)) ∧ story = one ++ two := by
  induction calls generalizing story with
  | nil =>
      constructor
      · intro steps
        cases (Steps.ofDone steps).1
      · rintro ⟨before, failing, after, one, two, split, -⟩
        exact absurd split.symm (List.append_ne_nil_of_right_ne_nil before (List.cons_ne_nil failing after))
  | cons entry rest ih =>
      obtain ⟨action, consents⟩ := entry
      rw [runEach, Steps.chain_iff]
      constructor
      · rintro (⟨_, own, _, lead, others, rfl⟩ | ⟨_, lead, is⟩)
        · obtain ⟨before, failing, after, one, two, rfl, passed, failed, rfl⟩ := ih.mp others
          refine ⟨(action, consents) :: before, failing, after, own ++ one, two, rfl, ?_, failed, ?_⟩
          · exact Steps.chain_iff.mpr (.inl ⟨(), own, one, lead, passed, rfl⟩)
          · exact (List.append_assoc own one two).symm
        · cases is
          exact ⟨[], (action, consents), rest, [], story, rfl, .refl _, lead, rfl⟩
      · rintro ⟨before, failing, after, one, two, split, passed, failed, rfl⟩
        cases before with
        | nil =>
            obtain ⟨rfl, rfl⟩ := List.cons.inj split
            obtain ⟨rfl, -⟩ := Steps.done_iff.mp passed
            exact .inr ⟨error, failed, rfl⟩
        | cons head before =>
            obtain ⟨rfl, rfl⟩ := List.cons.inj split
            rw [runEach, Steps.chain_iff] at passed
            rcases passed with ⟨_, own, more, lead, others, rfl⟩ | ⟨_, _, impossible⟩
            · refine .inl ⟨(), own, more ++ two, lead, ih.mpr ?_, List.append_assoc own more two⟩
              exact ⟨before, failing, after, more, two, rfl, others, failed, rfl⟩
            · cases impossible

/-! ## Which action a method has -/

namespace MethodRule

variable (rule : MethodRule)

/-- The actions of some methods, without those that have none. -/
def actions (names : List MethodName) : List Action := names.filterMap fun name => rule.action? name.text

/-- The actions of some methods, each with the purposes to be allowed by it. -/
def calls (script : List (MethodName × List Category)) : List (Action × List Category) :=
  script.filterMap fun entry => (rule.action? entry.1.text).map fun action => (action, entry.2)

/-- The methods that a routine goes through, each with the purposes to be allowed in it. -/
def script : Routine → List (MethodName × List Category)
  | .optOut => deciding []
  | .optIn => deciding Category.all
  | .openSettings => [(.hideCmp, []), (.openOptions, [])]
  | _ => []
where
  /-- Only one of them is told what to allow. -/
  deciding (consents : List Category) : List (MethodName × List Category) :=
    [(.hideCmp, []), (.openOptions, []), (.hideCmp, []), (.doConsent, consents), (.saveConsent, [])]

end MethodRule

/-! ## Routines that go through methods -/

/-- A routine does what actions in sequence do, and comes to success where they do. -/
structure Follows (timings : Timings) (routine : Deed Bool) (calls : List (Action × List Category)) : Prop where
  flow : routine = runEach timings calls >>= fun _ => pure true
  succeeds : ∀ story value, Steps routine.run story (.done (.ok value)) ↔
    value = true ∧ Steps (runEach timings calls).run story (.done (.ok ()))
  /-- It fails as the first action that fails, and nothing is told after that. -/
  fails : ∀ story error, Steps routine.run story (.done (.error error)) ↔
    ∃ before failing after one two, calls = before ++ failing :: after ∧
      Steps (runEach timings before).run one (.done (.ok ())) ∧
      Steps (failing.1.run timings failing.2 .document).run two (.done (.error error)) ∧ story = one ++ two
  /-- It leaves the page, and all else, as the actions do, and takes the same time. -/
  played : ∀ fuel rehearsal, playFlow fuel rehearsal routine.run =
    ((playFlow fuel rehearsal (runEach timings calls).run).1.map (Except.map fun _ => true),
      (playFlow fuel rehearsal (runEach timings calls).run).2)

theorem follows {routine : Deed Bool} {calls : List (Action × List Category)}
    (flow : routine = runEach timings calls >>= fun _ => pure true) : Follows timings routine calls := by
  have run : routine.run = (runEach timings calls).run.bind fun outcome => .done (outcome.map fun _ => true) :=
    flow ▸ Flow.run_chain_pure _ _
  refine ⟨flow, fun story value => ?_, fun story error => ?_, fun fuel rehearsal => ?_⟩
  · rw [run, Steps.map_iff]
    constructor
    · rintro ⟨outcome, steps, is⟩
      cases outcome with
      | ok => exact ⟨Except.ok.inj is, steps⟩
      | error => cases is
    · rintro ⟨rfl, steps⟩
      exact ⟨.ok (), steps, rfl⟩
  · rw [run, Steps.map_iff, ← runEach_fails]
    constructor
    · rintro ⟨outcome, steps, is⟩
      cases outcome with
      | ok => cases is
      | error => exact Except.error.inj is ▸ steps
    · exact fun steps => ⟨.error error, steps, rfl⟩
  · rw [run]
    exact Rehearsal.playFlow_map _ fuel rehearsal _

end ConsentBanner

import ConsentBanner.Proofs.Flow.Failing
import ConsentBanner.Proofs.Lists

/-!
# Flows that recite scripts

Of what a flow tells only some exchanges may matter, each noted as a cue.  A flow recites a script if the
cues are at any time the beginning of the script of some value, and when the flow is done the whole script
of the value that it came to.  Scripts follow the text of a flow: one rule for flows in sequence, one for
those that tell nothing that matters, and one for a race whose lanes only hum, so that the winner is heard
with some hums in between.
-/

set_option autoImplicit false

namespace ConsentBanner

instance : Nonempty EngineState := ⟨.initial⟩

instance : Nonempty Memory := ⟨.blank⟩

def cues {γ : Type} (tell : Exchange → Option γ) (story : List Exchange) : List γ := story.filterMap tell

/-- Requests that tell nothing that matters, whatever the reply. -/
def Request.Silent {γ : Type} (tell : Exchange → Option γ) : {β : Type} → Request β → Prop :=
  fun request => ∀ reply, tell ⟨request, reply⟩ = none

/-- Requests that tell nothing but cues of one kind. -/
def Request.Hums {γ : Type} (tell : Exchange → Option γ) (hum : γ → Prop) : {β : Type} → Request β → Prop :=
  fun request => ∀ reply, ∀ cue ∈ tell ⟨request, reply⟩, hum cue

theorem Request.Silent.hums {γ β : Type} {tell : Exchange → Option γ} {request : Request β}
    (silent : request.Silent tell) (hum : γ → Prop) : request.Hums tell hum := by
  intro reply cue told
  rw [silent reply] at told
  cases told

namespace Flow

variable {α β γ : Type} {tell : Exchange → Option γ} {hum : γ → Prop}

theorem cues_append (one two : List Exchange) : cues tell (one ++ two) = cues tell one ++ cues tell two :=
  List.filterMap_append

theorem cues_silent {story : List Exchange} (silent : Allowed (Request.Silent tell) story) :
    cues tell story = [] := by
  apply List.filterMap_eq_nil_iff.mpr
  rintro ⟨request, reply⟩ member
  exact silent _ member reply

theorem cues_hum {story : List Exchange} (hums : Allowed (Request.Hums tell hum) story) :
    ∀ cue ∈ cues tell story, hum cue := by
  intro cue member
  obtain ⟨⟨request, reply⟩, within, told⟩ := List.mem_filterMap.mp member
  exact hums _ within reply cue told

/-- A flow tells the beginning of a script, and all of it by the time it is done. -/
structure Recites (tell : Exchange → Option γ) (flow : Flow α) (script : α → List γ → Prop) : Prop where
  begun : ∀ {story after}, Steps flow story after → ∃ value whole, script value whole ∧ cues tell story <+: whole
  ended : ∀ {story value}, Steps flow story (.done value) → script value (cues tell story)

namespace Recites

variable {script : α → List γ → Prop} {flow : Flow α} {alone : Bool}

theorem imp {weaker : α → List γ → Prop} (recites : flow.Recites tell script)
    (weakens : ∀ value whole, script value whole → weaker value whole) : flow.Recites tell weaker := by
  refine ⟨fun steps => ?_, fun steps => weakens _ _ (recites.ended steps)⟩
  obtain ⟨value, whole, recited, part⟩ := recites.begun steps
  exact ⟨value, whole, weakens value whole recited, part⟩

theorem done {value : α} (empty : script value []) : (Flow.done value).Recites tell script := by
  refine ⟨fun steps => ?_, fun steps => ?_⟩
  · obtain ⟨-, rfl⟩ := steps.ofDone
    exact ⟨value, [], empty, List.prefix_rfl⟩
  · obtain ⟨rfl, rfl⟩ := Steps.done_iff.mp steps
    exact empty

/-- In a sequence the script of the first flow is followed by one of the second. -/
theorem bind {f : α → Flow β} {both : β → List γ → Prop} (first : flow.Recites tell script)
    (next : ∀ value one, script value one → (f value).Recites tell fun result two => both result (one ++ two)) :
    (flow.bind f).Recites tell both := by
  refine ⟨fun steps => ?_, fun steps => ?_⟩
  · rcases steps.ofBind with ⟨moved, -, front, -⟩ | ⟨value, one, two, front, back, rfl⟩
    · obtain ⟨value, one, recited, part⟩ := first.begun front
      obtain ⟨result, two, whole, -⟩ := (next value one recited).begun (.refl _)
      exact ⟨result, one ++ two, whole, part.trans (List.prefix_append one two)⟩
    · obtain ⟨result, rest, whole, part⟩ := (next value _ (first.ended front)).begun back
      refine ⟨result, _, whole, ?_⟩
      rw [cues_append]
      exact List.prefix_append_right_inj _ |>.mpr part
  · obtain ⟨value, one, two, front, back, rfl⟩ := Steps.bind_iff.mp steps
    rw [cues_append]
    exact (next value _ (first.ended front)).ended back

/-- One flow after the other, as written in steps. -/
theorem andThen {f : α → Flow β} {both : β → List γ → Prop} (first : flow.Recites tell script)
    (next : ∀ value one, script value one → (f value).Recites tell fun result two => both result (one ++ two)) :
    (flow >>= f).Recites tell both := first.bind next

theorem hums [Nonempty α] (confined : flow.Confined (Request.Hums tell hum) alone) :
    flow.Recites tell fun _ whole => ∀ cue ∈ whole, hum cue := by
  refine ⟨fun steps => ?_, fun steps => cues_hum (steps.confined confined).2⟩
  obtain ⟨value⟩ := ‹Nonempty α›
  exact ⟨value, _, cues_hum (steps.confined confined).2, List.prefix_rfl⟩

theorem silent [Nonempty α] (confined : flow.Confined (Request.Silent tell) alone) :
    flow.Recites tell fun _ whole => whole = [] := by
  refine ⟨fun steps => ?_, fun steps => cues_silent (steps.confined confined).2⟩
  obtain ⟨value⟩ := ‹Nonempty α›
  exact ⟨value, [], rfl, (cues_silent (steps.confined confined).2) ▸ List.prefix_rfl⟩

theorem afterSilence [Nonempty α] {f : α → Flow β} {rest : β → List γ → Prop}
    (confined : flow.Confined (Request.Silent tell) alone) (next : ∀ value, (f value).Recites tell rest) :
    (flow >>= f).Recites tell rest := by
  refine (silent confined).andThen fun value one nothing => ?_
  subst nothing
  exact next value

theorem request {request : Request α} [Nonempty α]
    (told : ∀ reply, script reply (cues tell [⟨request, reply⟩])) :
    (Flow.request request).Recites tell script := by
  refine ⟨fun steps => ?_, fun steps => ?_⟩
  · rcases steps.ofAsk with ⟨rfl, -⟩ | ⟨reply, rest, rfl, onward⟩
    · obtain ⟨reply⟩ := ‹Nonempty α›
      exact ⟨reply, _, told reply, List.nil_prefix⟩
    · obtain ⟨-, rfl⟩ := onward.ofDone
      exact ⟨reply, _, told reply, List.prefix_rfl⟩
  · obtain rfl := Steps.request_iff.mp steps
    exact told _

end Recites

/-! ## Races -/

/-- How far a race has come whose lanes only hum: it goes on with what its winner did, it was lost before the
winner started, or the winner is done. -/
inductive Heat (tell : Exchange → Option γ) (hum : γ → Prop) (started : Bool) (winner : Flow Bool)
    (story : List Exchange) : Flow (Option Bool) → Prop where
  | goesOn {lanes : List (Flow Bool)} {still : Bool} {moved : Flow Bool} {lead : List Exchange}
      (leads : Steps winner lead moved) (told : Swells hum (cues tell lead) (cues tell story)) :
      Heat tell hum started winner story (.race lanes still moved .done)
  | lost (unstarted : started = false) (told : ∀ cue ∈ cues tell story, hum cue) :
      Heat tell hum started winner story (.done none)
  | decided {value : Bool} {lead : List Exchange} (leads : Steps winner lead (.done value))
      (told : Swells hum (cues tell lead) (cues tell story)) :
      Heat tell hum started winner story (.done (some value))

theorem Heat.afterHums {started : Bool} {winner : Flow Bool} {told story : List Exchange}
    {after : Flow (Option Bool)} (hums : ∀ cue ∈ cues tell told, hum cue)
    (heat : Heat tell hum started winner story after) : Heat tell hum started winner (told ++ story) after := by
  have more : cues tell (told ++ story) = cues tell told ++ cues tell story := cues_append _ _
  cases heat with
  | goesOn leads swells => exact .goesOn leads (more ▸ swells.after hums)
  | lost unstarted others => exact .lost unstarted (more ▸ List.forall_mem_append.mpr ⟨hums, others⟩)
  | decided leads swells => exact .decided leads (more ▸ swells.after hums)

theorem Steps.heat {lanes : List (Flow Bool)} {started alone : Bool} {winner : Flow Bool} {story : List Exchange}
    {after : Flow (Option Bool)} (steps : Steps (.race lanes started winner .done) story after)
    (hums : LanesConfined (Request.Hums tell hum) alone lanes) : Heat tell hum started winner story after := by
  generalize whole : Flow.race lanes started winner .done = race at steps
  induction steps generalizing lanes started winner with
  | refl => exact whole ▸ .goesOn (.refl _) .nil
  | @head _ between after told story step rest ih =>
      subst whole
      have each := lanesConfined_iff.mp hums
      cases step with
      | @lane _ ahead behind lane moved _ _ _ _ step =>
          obtain ⟨still, allowed⟩ := step.confined (each lane (by simp))
          refine (ih (lanesConfined_iff.mpr fun other member => ?_) rfl).afterHums (cues_hum allowed)
          rcases mem_insert member with rfl | apart
          · exact still
          · exact each other (subset_insert _ ahead behind apart)
      | win won =>
          -- The winner starts, and a race that is on cannot be lost any more.
          cases ih hums rfl with
          | goesOn leads told => exact .goesOn leads told
          | lost unstarted _ => cases unstarted
          | decided leads told => exact .decided leads told
      | @leave _ ahead behind _ _ _ _ _ =>
          refine ih (lanesConfined_iff.mpr fun other member => ?_) rfl
          exact each other (subset_insert _ ahead behind member)
      | winner step =>
          have more : ∀ {lead : List Exchange}, Swells hum (cues tell lead) (cues tell story) →
              Swells hum (cues tell (told ++ lead)) (cues tell (told ++ story)) := by
            intro lead swells
            rw [cues_append, cues_append]
            exact (Swells.refl _).append swells
          cases ih hums rfl with
          | goesOn leads swells => exact .goesOn (.head step leads) (more swells)
          | lost unstarted _ => cases unstarted
          | decided leads swells => exact .decided (.head step leads) (more swells)
      | lost =>
          obtain ⟨rfl, rfl⟩ := rest.ofDone
          exact .lost rfl (List.forall_mem_nil _)
      | decided value =>
          obtain ⟨rfl, rfl⟩ := rest.ofDone
          exact .decided (.refl _) .nil

theorem Recites.race {lanes : List (Flow Bool)} {winner : Flow Bool} {alone : Bool}
    {script : Bool → List γ → Prop} {result : Option Bool → List γ → Prop}
    (hums : LanesConfined (Request.Hums tell hum) alone lanes) (recites : winner.Recites tell script)
    (lost : ∀ whole, (∀ cue ∈ whole, hum cue) → result none whole)
    (decided : ∀ value lead whole, script value lead → Swells hum lead whole → result (some value) whole) :
    (Flow.race lanes false winner .done).Recites tell result := by
  refine ⟨fun steps => ?_, fun steps => ?_⟩
  · cases steps.heat hums with
    | goesOn leads swells =>
        obtain ⟨value, whole, recited, rest, rfl⟩ := recites.begun leads
        exact ⟨some value, _, decided value _ _ recited (swells.append (.refl rest)), List.prefix_append _ _⟩
    | lost _ told => exact ⟨none, _, lost _ told, List.prefix_rfl⟩
    | @decided value _ leads swells =>
        exact ⟨some value, _, decided value _ _ (recites.ended leads) swells, List.prefix_rfl⟩
  · generalize is : Flow.done _ = after at steps
    cases steps.heat hums with
    | goesOn => cases is
    | lost _ told =>
        cases is
        exact lost _ told
    | decided leads swells =>
        cases is
        exact decided _ _ _ (recites.ended leads) swells

end Flow

end ConsentBanner

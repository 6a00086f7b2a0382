import ConsentBanner.Proofs.Flow.Failing
import ConsentBanner.Proofs.Lists

/-!
# What a race tells

The story of a race is made of those of its lanes and of its winner.  A race is lost only when all lanes have come
to false, and then nothing else is told (`Steps.lost`).  It is decided only when its winner is done, and a winner
starts only when some lane has come to true (`Steps.decided`).
-/

set_option autoImplicit false

namespace ConsentBanner.Flow

/-- All lanes come to false, and what is told is told of lanes. -/
structure IsLost (lanes : List (Flow Bool)) (story : List Exchange) : Prop where
  ends : ∀ lane ∈ lanes, ∃ own, Steps lane own (.done false)
  told : ∀ exchange ∈ story, ∃ lane ∈ lanes, ∃ own, Steps lane own (.done false) ∧ exchange ∈ own

/-- The winner comes to a value in a part of a story, and a lane that lets it start comes to true in another. -/
structure IsDecided (lanes : List (Flow Bool)) (started : Bool) (winner : Flow Bool) (value : Bool)
    (story : List Exchange) : Prop where
  led : ∃ lead, Steps winner lead (.done value) ∧ lead.Sublist story
  won : started = false → ∃ lane ∈ lanes, ∃ own, Steps lane own (.done true) ∧ own.Sublist story

variable {lanes ahead behind : List (Flow Bool)} {one moved winner : Flow Bool} {started value : Bool}
  {told story : List Exchange}

theorem IsLost.lane (step : Step one told moved) (lost : IsLost (ahead ++ moved :: behind) story) :
    IsLost (ahead ++ one :: behind) (told ++ story) := by
  have here : one ∈ ahead ++ one :: behind := List.mem_append_right ahead List.mem_cons_self
  obtain ⟨last, ends⟩ := lost.ends moved (List.mem_append_right ahead List.mem_cons_self)
  refine ⟨fun other member => ?_, fun exchange member => ?_⟩
  · rcases mem_replace moved member with rfl | apart
    · exact ⟨told ++ last, .head step ends⟩
    · exact lost.ends other apart
  · rcases List.mem_append.mp member with now | later
    · exact ⟨one, here, told ++ last, .head step ends, List.mem_append_left last now⟩
    · obtain ⟨other, within, own, steps, tells⟩ := lost.told exchange later
      rcases mem_replace one within with rfl | apart
      · exact ⟨one, here, told ++ own, .head step steps, List.mem_append_right told tells⟩
      · exact ⟨other, apart, own, steps, tells⟩

theorem IsLost.leave (lost : IsLost (ahead ++ behind) story) : IsLost (ahead ++ .done false :: behind) story := by
  refine ⟨fun other member => ?_, fun exchange member => ?_⟩
  · rcases mem_insert member with rfl | apart
    · exact ⟨[], .refl _⟩
    · exact lost.ends other apart
  · obtain ⟨other, within, found⟩ := lost.told exchange member
    exact ⟨other, subset_insert _ ahead behind within, found⟩

theorem IsDecided.lane (step : Step one told moved)
    (decided : IsDecided (ahead ++ moved :: behind) started winner value story) :
    IsDecided (ahead ++ one :: behind) started winner value (told ++ story) := by
  refine ⟨?_, fun unstarted => ?_⟩
  · obtain ⟨lead, leads, part⟩ := decided.led
    exact ⟨lead, leads, List.sublist_append_of_sublist_right part⟩
  · obtain ⟨other, within, own, wins, part⟩ := decided.won unstarted
    rcases mem_replace one within with rfl | apart
    · exact ⟨one, List.mem_append_right ahead List.mem_cons_self, told ++ own, .head step wins,
        part.append_left told⟩
    · exact ⟨other, apart, own, wins, List.sublist_append_of_sublist_right part⟩

/-- A race whose winner was started does not get lost. -/
theorem Steps.lost (steps : Steps (.race lanes started winner .done) story (.done none)) :
    started = false ∧ IsLost lanes story := by
  generalize whole : Flow.race lanes started winner .done = race at steps
  generalize is : Flow.done none = result at steps
  induction steps generalizing lanes started winner with
  | refl => cases whole.trans is.symm
  | head step rest ih =>
      subst whole
      cases step with
      | lane step =>
          obtain ⟨unstarted, lost⟩ := ih rfl is
          exact ⟨unstarted, lost.lane step⟩
      | win won => cases (ih rfl is).1
      | @leave _ ahead behind value _ _ _ noticed =>
          obtain ⟨rfl, lost⟩ := ih rfl is
          cases value with
          | false => exact ⟨rfl, lost.leave⟩
          | true => cases noticed rfl
      | winner step => cases (ih rfl is).1
      | lost =>
          subst is
          obtain ⟨-, rfl⟩ := rest.ofDone
          exact ⟨rfl, List.forall_mem_nil _, List.forall_mem_nil _⟩
      | decided value =>
          subst is
          obtain ⟨same, -⟩ := rest.ofDone
          cases same

theorem Steps.decided (steps : Steps (.race lanes started winner .done) story (.done (some value))) :
    IsDecided lanes started winner value story := by
  generalize whole : Flow.race lanes started winner .done = race at steps
  generalize is : Flow.done (some value) = result at steps
  induction steps generalizing lanes started winner with
  | refl => cases whole.trans is.symm
  | head step rest ih =>
      subst whole
      cases step with
      | lane step => exact (ih rfl is).lane step
      | win won => exact ⟨(ih rfl is).led, fun _ => ⟨_, won, [], .refl _, List.nil_sublist _⟩⟩
      | @leave _ ahead behind gone _ _ _ _ =>
          have decided := ih rfl is
          refine ⟨decided.led, fun unstarted => ?_⟩
          obtain ⟨other, within, found⟩ := decided.won unstarted
          exact ⟨other, subset_insert _ ahead behind within, found⟩
      | winner step =>
          obtain ⟨lead, leads, part⟩ := (ih rfl is).led
          exact ⟨⟨_, .head step leads, part.append_left _⟩, fun unstarted => Bool.noConfusion unstarted⟩
      | lost =>
          subst is
          obtain ⟨same, -⟩ := rest.ofDone
          cases same
      | decided value =>
          subst is
          obtain ⟨same, rfl⟩ := rest.ofDone
          cases same
          exact ⟨⟨[], .refl _, List.nil_sublist _⟩, fun unstarted => Bool.noConfusion unstarted⟩

end ConsentBanner.Flow

import ConsentBanner.Proofs.Flow.Faced
import ConsentBanner.Proofs.Page.Described
import ConsentBanner.Proofs.Query.Pairs
import ConsentBanner.Vendor.Airbnb
import Mathlib.Data.List.Perm.Subperm

/-!
# Toggles that are clicked until none is on

Opting out clicks toggles in rounds: each looks for toggles that are on and clicks the first.  Whatever the page does,
there are at most as many rounds as the limit says, and then the button that saves is looked up.  Where every click
puts out its toggle and lights no other one, as many rounds are enough as toggles are on at first, and none is on when
that button is looked up: `Airbnb.optOut_rounds`.
-/

set_option autoImplicit false

namespace ConsentBanner

/-- Calls for elements find only what is described by their selectors. -/
def Behaviour.IsHonest {σ : Type} (page : Behaviour σ) : Prop :=
  ∀ state selector nodes, (page.reply (.queryAll .document selector) state).1 = .ok nodes → ∀ node ∈ nodes,
    Selector.describes selector (page.document state) node = true

theorem Behaviour.isHonest_ofSnapshot : Behaviour.ofSnapshot.IsHonest := by
  intro page selector nodes found node member
  exact (Snapshot.describes_of_perform found member).1

namespace Airbnb

open Primitive (waitForThenClick clickNodes clickEach)
open Flow (Direct)

/-! ## Toggles -/

def IsOn (document : Markup.Document) (node : NodeId) : Prop :=
  ∃ element, document.element? node = some element ∧ element.name = "button" ∧
    (∃ property ∈ element.properties, property.name = "aria-checked" ∧ property.value = "true") ∧
    element.hasAttribute "disabled" = false

def asksChecked : Selector.Condition → Bool
  | .attribute name _ (some test) => name == "aria-checked" && test == ⟨.equal, "true", .exact⟩
  | _ => false

def asksEnabled : Selector.Condition → Bool
  | .not [.last [.attribute name false none]] => name == "disabled"
  | _ => false

theorem checked_of_holds {document : Markup.Document} {node : NodeId} {element : Markup.Element}
    {condition : Selector.Condition} (isElement : document.element? node = some element)
    (asks : asksChecked condition = true) (holds : condition.holds ⟨document, none, none⟩ node = true) :
    ∃ property ∈ element.properties, property.name = "aria-checked" ∧ property.value = "true" := by
  unfold asksChecked at asks
  split at asks
  · next key anySpace test =>
      obtain ⟨rfl, rfl⟩ : key = "aria-checked" ∧ test = ⟨.equal, "true", .exact⟩ := by simpa using asks
      rw [Selector.Condition.holds, isElement, Option.any_some] at holds
      obtain ⟨property, member, passes⟩ := List.any_eq_true.mp holds
      simp only [Bool.and_eq_true, beq_iff_eq, Selector.ValueTest.holds, Selector.Comparison.holds] at passes
      obtain ⟨⟨-, name⟩, value⟩ := passes
      rw [Selector.comparedName_of_lower (by decide +kernel)] at name
      exact ⟨property, member, name, String.toList_inj.mp value⟩
  · cases asks

theorem enabled_of_holds {document : Markup.Document} {node : NodeId} {element : Markup.Element}
    {condition : Selector.Condition} (isElement : document.element? node = some element)
    (asks : asksEnabled condition = true) (holds : condition.holds ⟨document, none, none⟩ node = true) :
    element.hasAttribute "disabled" = false := by
  unfold asksEnabled at asks
  split at asks
  · next key =>
      obtain rfl : key = "disabled" := beq_iff_eq.mp asks
      simp only [Selector.Condition.holds, Selector.anyHolds, Selector.Chain.holds, Selector.allHold, isElement,
        Option.any_some, Bool.and_true, Bool.or_false, Bool.not_eq_true'] at holds
      rw [Selector.hasAttribute, List.any_eq_false] at holds
      rw [Markup.Element.hasAttribute, Markup.Element.attribute?, Option.isSome_map, Bool.eq_false_iff]
      intro has
      obtain ⟨property, found⟩ := Option.isSome_iff_exists.mp has
      have fits := List.find?_some found
      refine holds property (List.mem_of_find?_eq_some found) ?_
      rw [Selector.comparedName_of_lower (by decide +kernel)]
      simpa using fits
  · cases asks

theorem isOn_of_describes {document : Markup.Document} {node : NodeId}
    (described : Selector.describes toggles document node = true) : IsOn document node := by
  obtain ⟨names, checks, enables⟩ : Selector.asksFor toggles (Selector.Condition.isName "button") = true ∧
      Selector.asksFor toggles asksChecked = true ∧ Selector.asksFor toggles asksEnabled = true := by decide +kernel
  obtain ⟨element, isElement, name⟩ := Selector.name_of_describes names (by decide +kernel) described
  obtain ⟨checked, asks, holds⟩ := Selector.condition_of_describes checks described
  obtain ⟨enabled, allows, stands⟩ := Selector.condition_of_describes enables described
  exact ⟨element, isElement, name, checked_of_holds isElement asks holds, enabled_of_holds isElement allows stands⟩

/-! ## Rounds -/

variable {σ : Type}

/-- The toggles that are on: those that a call finds. -/
def lit (page : Behaviour σ) (state : σ) : List NodeId :=
  Primitive.orElse (page.reply (.queryAll .document toggles) state).1 []

def look (page : Behaviour σ) (state : σ) : Moment σ :=
  ⟨state, ⟨.page (.queryAll .document toggles), (page.reply (.queryAll .document toggles) state).1⟩⟩

def press (page : Behaviour σ) (state : σ) (toggle : NodeId) : Moment σ :=
  ⟨state, ⟨.page (.click toggle), (page.reply (.click toggle) state).1⟩⟩

def afterLook (page : Behaviour σ) (state : σ) : σ := (page.reply (.queryAll .document toggles) state).2

def afterPress (page : Behaviour σ) (state : σ) (toggle : NodeId) : σ := (page.reply (.click toggle) state).2

/-- A look for toggles at some state, and a click on the first that it finds. -/
structure Round (σ : Type) where
  state : σ
  toggle : NodeId

/-- The calls of a round. -/
def Round.record (page : Behaviour σ) (round : Round σ) : List (Moment σ) :=
  [look page round.state, press page (afterLook page round.state) round.toggle]

/-- Rounds one after the other: each clicks the first toggle that is on. -/
inductive Rounds (page : Behaviour σ) : σ → List (Round σ) → σ → Prop where
  | nil (state : σ) : Rounds page state [] state
  | cons {state last : σ} {toggle : NodeId} {rounds : List (Round σ)} (first : (lit page state).head? = some toggle)
      (rest : Rounds page (afterPress page (afterLook page state) toggle) rounds last) :
      Rounds page state (⟨state, toggle⟩ :: rounds) last

/-- What the loop comes to after some rounds: it looks once more, and is done. -/
def looped (page : Behaviour σ) (rounds : List (Round σ)) (last : σ) : Faced σ Unit :=
  ⟨(), 0, afterLook page last, rounds.flatMap (Round.record page) ++ [look page last]⟩

theorem clickToggles_succ (limit : Nat) :
    clickToggles (limit + 1) = (Primitive.query toggles).bind fun found =>
      match found with
      | [] => .done ()
      | toggle :: _ => (clickNodes [toggle] false).bind fun _ => clickToggles limit := rfl

theorem clickToggles_faces (page : Behaviour σ) (limit : Nat) (state : σ) :
    ∃ rounds last, Rounds page state rounds last ∧ rounds.length ≤ limit ∧
      (rounds.length < limit → lit page last = []) ∧
      (clickToggles limit).face page state = some (looped page rounds last) := by
  induction limit generalizing state with
  | zero => exact ⟨[], state, .nil state, Nat.le_refl 0, fun less => absurd less (Nat.lt_irrefl 0), rfl⟩
  | succ limit ih =>
      have looks : (Primitive.query toggles).face page state =
          some ⟨lit page state, 0, afterLook page state, [look page state]⟩ := Flow.query_faces page toggles state
      rw [clickToggles_succ, Flow.face_bind, looks, Option.bind_some]
      cases found : lit page state with
      | nil => exact ⟨[], state, .nil state, Nat.zero_le _, fun _ => found, rfl⟩
      | cons toggle others =>
          have first : (lit page state).head? = some toggle := by rw [found, List.head?_cons]
          have clicks : (clickNodes [toggle] false).face page (afterLook page state) =
              some ⟨true, 0, afterPress page (afterLook page state) toggle,
                [press page (afterLook page state) toggle]⟩ := rfl
          obtain ⟨rounds, last, rest, within, ends, faces⟩ := ih (afterPress page (afterLook page state) toggle)
          refine ⟨⟨state, toggle⟩ :: rounds, last, .cons first rest, Nat.succ_le_succ within, ?_, ?_⟩
          · intro less
            exact ends (Nat.lt_of_succ_lt_succ less)
          · dsimp only
            rw [Flow.face_bind, clicks, Option.bind_some, faces]
            rfl

/-! ## Toggles that go out -/

/-- While something holds, toggles that are on are listed once, only clicks on them change which are on, and each such
click puts out its toggle and lights no other. -/
structure Clearable (page : Behaviour σ) (holds : σ → Prop) : Prop where
  distinct : ∀ state, holds state → (lit page state).Nodup
  reads : ∀ {α : Type} (call : PageCall α) state, call.Reads → holds state →
    holds (page.reply call state).2 ∧ lit page (page.reply call state).2 = lit page state
  passes : ∀ time state, holds state →
    holds (page.pass time state) ∧ lit page (page.pass time state) = lit page state
  clicks : ∀ state toggle, holds state → toggle ∈ lit page state →
    holds (afterPress page state toggle) ∧ lit page (afterPress page state toggle) ⊆ lit page state ∧
      toggle ∉ lit page (afterPress page state toggle)

variable {page : Behaviour σ} {holds : σ → Prop} {state last : σ} {rounds : List (Round σ)}

theorem Clearable.round (clearable : Clearable page holds) (begins : holds state) {toggle : NodeId}
    (first : (lit page state).head? = some toggle) :
    toggle ∈ lit page (afterLook page state) ∧ holds (afterPress page (afterLook page state) toggle) ∧
      (lit page (afterPress page (afterLook page state) toggle)).length + 1 ≤ (lit page state).length := by
  obtain ⟨looked, same⟩ := clearable.reads (.queryAll .document toggles) state trivial begins
  have isLit : toggle ∈ lit page (afterLook page state) := by
    rw [afterLook, same]
    exact List.mem_of_head? first
  obtain ⟨ends, fewer, out⟩ := clearable.clicks _ toggle looked isLit
  refine ⟨isLit, ends, ?_⟩
  have distinct : (toggle :: lit page (afterPress page (afterLook page state) toggle)).Nodup :=
    List.nodup_cons.mpr ⟨out, clearable.distinct _ ends⟩
  have within : toggle :: lit page (afterPress page (afterLook page state) toggle) ⊆ lit page (afterLook page state) :=
    List.cons_subset.mpr ⟨isLit, fewer⟩
  have shorter := (distinct.subperm within).length_le
  rw [List.length_cons, afterLook, same] at shorter
  exact shorter

/-- Rounds put out as many toggles as they are, at least. -/
theorem Rounds.clears (goes : Rounds page state rounds last) (clearable : Clearable page holds) (begins : holds state) :
    holds last ∧ rounds.length + (lit page last).length ≤ (lit page state).length ∧
      ∀ round ∈ rounds, round.toggle ∈ lit page (afterLook page round.state) := by
  induction goes with
  | nil state => exact ⟨begins, by simp, fun _ => nofun⟩
  | @cons state last toggle rounds first _ ih =>
      obtain ⟨isLit, ends, fewer⟩ := clearable.round begins first
      obtain ⟨atLast, counted, each⟩ := ih ends
      refine ⟨atLast, ?_, List.forall_mem_cons.mpr ⟨isLit, each⟩⟩
      rw [List.length_cons]
      omega

/-- The element of a click. -/
def Moment.clicked? : Moment σ → Option NodeId
  | ⟨_, ⟨.page (.click node), _⟩⟩ => some node
  | _ => none

theorem clicked_looped (page : Behaviour σ) (rounds : List (Round σ)) (last : σ) :
    (looped page rounds last).record.filterMap Moment.clicked? = rounds.map Round.toggle := by
  rw [looped, List.filterMap_append]
  induction rounds with
  | nil => rfl
  | cons round rest ih =>
      rw [List.flatMap_cons, List.filterMap_append, List.append_assoc, ih]
      rfl

/-! ## Waiting for a button -/

def seek (timings : Timings) (selector : String) (limit : Nat) : Flow (List NodeId) :=
  (Primitive.waitForElement timings selector limit).bind fun _ => Primitive.query selector

theorem waitForThenClick_eq (timings : Timings) (selector : String) (limit : Nat) (all : Bool) :
    waitForThenClick timings selector limit all =
      (seek timings selector limit).bind fun nodes => clickNodes nodes all :=
  (Flow.bind_assoc _ _ _).symm

theorem seek_direct (timings : Timings) (selector : String) (limit : Nat) :
    (seek timings selector limit).Direct .reading :=
  (Direct.poll (.ofGlance (.isPresent selector)) _ _).bind fun _ => .ofGlance (.query selector)

def clicking : CallKind
  | _, .click _ => True
  | _, _ => False

theorem clickNodes_direct (nodes : List NodeId) (all : Bool) : (clickNodes nodes all).Direct clicking := by
  have each : ∀ nodes : List NodeId, (clickEach nodes).Direct clicking := by
    intro nodes
    induction nodes with
    | nil => exact .done ()
    | cons node rest ih => exact .ask trivial fun _ => ih
  exact (each _).bind fun _ => .done _

/-- Waiting begins with a look. -/
theorem waitForThenClick_asks (timings : Timings) (selector : String) (limit : Nat) (all : Bool) :
    ∃ next, waitForThenClick timings selector limit all = .ask (.page (.queryAll .document selector)) next := by
  unfold waitForThenClick Primitive.waitForElement
  cases timings.attemptsFor limit with
  | zero => exact ⟨_, rfl⟩
  | succ retries => exact ⟨_, rfl⟩

/-- Waiting for a button and clicking it comes to an end, and begins with a look for the button.  What is kept by
looks and by time holds whenever it looks. -/
theorem waitForThenClick_faces (timings : Timings) (selector : String) (limit : Nat) (all : Bool)
    (page : Behaviour σ) (state : σ) :
    ∃ faced, (waitForThenClick timings selector limit all).face page state = some faced ∧
      (∃ first others, faced.record = first :: others ∧ first.lookedFor? = some selector) ∧
      ∀ holds : σ → Prop,
        (∀ {α : Type} (call : PageCall α) state, call.Reads → holds state → holds (page.reply call state).2) →
        (∀ time state, holds state → holds (page.pass time state)) → holds state →
        ∀ moment ∈ faced.record, moment.lookedFor? = some selector → holds moment.state := by
  obtain ⟨found, looks⟩ := (seek_direct timings selector limit).faces page state
  obtain ⟨clicked, clicks⟩ := (clickNodes_direct found.value all).faces page found.state
  have faces : (waitForThenClick timings selector limit all).face page state = some (found.after clicked) := by
    rw [waitForThenClick_eq]
    exact Flow.face_andThen looks clicks
  refine ⟨found.after clicked, faces, ?_, ?_⟩
  · obtain ⟨next, asks⟩ := waitForThenClick_asks timings selector limit all
    rw [asks] at faces
    obtain ⟨rest, -, is⟩ := Option.map_eq_some_iff.mp faces
    exact ⟨_, _, congrArg Faced.record is.symm, rfl⟩
  · intro holds reads passes begins moment member isLook
    rcases List.mem_append.mp member with early | late
    · have kept := (seek_direct timings selector limit).keeps (fun call state => reads call state) passes begins looks
      exact kept.2 moment early
    · -- A click is no look.
      obtain ⟨α, call, reply, isClick, is⟩ := (clickNodes_direct found.value all).allowed clicks moment late
      obtain ⟨state, exchange⟩ := moment
      subst is
      cases call with
      | click node => cases isLook
      | _ => cases isClick

/-! ## Opting out -/

def settingsButton : String := banner ++ " button._snbhip0"

def saveButton : String := "button[data-testid=save-btn]"

/-- On a snapshot without a button for the settings, waiting for it changes nothing. -/
theorem opening_state {timings : Timings} {page : Snapshot} {opening : Faced Snapshot Bool}
    (none : (FixedPage.ofSnapshot page).elements .document settingsButton = [])
    (opens : (waitForThenClick timings settingsButton defaultStepTimeout false).face .ofSnapshot page = some opening) :
    opening.state = page := by
  rw [waitForThenClick_eq] at opens
  obtain ⟨found, clicked, looks, clicks, rfl⟩ := Flow.face_split opens
  obtain ⟨waited, queried, waits, queries, rfl⟩ := Flow.face_split looks
  have still : waited.state = page := by
    have direct : (Primitive.waitForElement timings settingsButton defaultStepTimeout).Direct .reading :=
      Direct.poll (.ofGlance (.isPresent settingsButton)) _ _
    have unchanged : ∀ {β : Type} (call : PageCall β) state, CallKind.reading β call → state = page →
        (Behaviour.ofSnapshot.reply call state).2 = page := by
      intro β call state reads same
      exact (state.perform_of_reads reads).trans same
    exact (direct.keeps unchanged (fun _ _ same => same) rfl waits).1
  have nothing : Primitive.orElse (Behaviour.ofSnapshot.reply (.queryAll .document settingsButton) page).1 [] = [] :=
    none
  have reads : (PageCall.queryAll .document settingsButton).Reads := trivial
  have same : (Behaviour.ofSnapshot.reply (.queryAll .document settingsButton) page).2 = page :=
    page.perform_of_reads reads
  rw [still, Flow.query_faces, nothing, same] at queries
  obtain rfl := Option.some.inj queries
  obtain rfl := Option.some.inj clicks
  rfl

theorem optOut_eq (timings : Timings) :
    optOut timings = (waitForThenClick timings settingsButton defaultStepTimeout false).bind fun _ =>
      (clickToggles clickLimit).bind fun _ => waitForThenClick timings saveButton defaultStepTimeout false := rfl

/-- Toggles go out one by one, at least: there are no more rounds than toggles that are on at first. -/
structure Clears (page : Behaviour σ) (opening : Faced σ Bool) (rounds : List (Round σ)) (saving : Faced σ Bool) :
    Prop where
  few : rounds.length ≤ (lit page opening.state).length
  /-- What is clicked is on at that moment. -/
  each : ∀ round ∈ rounds, round.toggle ∈ lit page (afterLook page round.state)
  isOn : page.IsHonest → ∀ round ∈ rounds, IsOn (page.document (afterLook page round.state)) round.toggle
  /-- Nothing is on whenever the button that saves is looked up. -/
  dark : ∀ moment ∈ saving.record, moment.lookedFor? = some saveButton → lit page moment.state = []

/-- How opting out goes: it waits for the settings and opens them, goes through rounds, looks for toggles once more, and
waits for the button that saves and clicks it. -/
structure OptsOut (timings : Timings) (page : Behaviour σ) (start : σ) (opening : Faced σ Bool)
    (rounds : List (Round σ)) (last : σ) (saving : Faced σ Bool) : Prop where
  opens : (waitForThenClick timings settingsButton defaultStepTimeout false).face page start = some opening
  goes : Rounds page opening.state rounds last
  within : rounds.length ≤ 64
  /-- In between only the toggles of the rounds are clicked. -/
  clicks : (looped page rounds last).record.filterMap Moment.clicked? = rounds.map Round.toggle
  saves : (waitForThenClick timings saveButton defaultStepTimeout false).face page (afterLook page last) = some saving
  looks : ∃ first others, saving.record = first :: others ∧ first.lookedFor? = some saveButton
  whole : (optOut timings).face page start = some (opening.after ((looped page rounds last).after saving))
  /-- These are all its calls. -/
  story : Flow.Steps (optOut timings)
    ((opening.record ++ ((looped page rounds last).record ++ saving.record)).map Moment.exchange) (.done saving.value)
  clears : ∀ holds : σ → Prop, Clearable page holds → holds opening.state → (lit page opening.state).length ≤ 64 →
    Clears page opening rounds saving

theorem clears_of_rounds {timings : Timings} {opening saving : Faced σ Bool}
    (goes : Rounds page opening.state rounds last) (within : rounds.length ≤ clickLimit)
    (ends : rounds.length < clickLimit → lit page last = [])
    (saves : (waitForThenClick timings saveButton defaultStepTimeout false).face page (afterLook page last) = some saving)
    (clearable : Clearable page holds) (begins : holds opening.state)
    (fits : (lit page opening.state).length ≤ clickLimit) : Clears page opening rounds saving := by
  obtain ⟨atLast, counted, each⟩ := goes.clears clearable begins
  have dark : lit page last = [] := by
    rcases Nat.lt_or_eq_of_le within with less | all
    · exact ends less
    · -- As many toggles went out as were on.
      exact List.length_eq_zero_iff.mp (by omega)
  refine ⟨by omega, each, ?_, ?_⟩
  · intro honest round member
    have isLit := each round member
    rw [lit] at isLit
    cases found : (page.reply (.queryAll .document toggles) (afterLook page round.state)).1 with
    | ok nodes =>
        rw [found] at isLit
        exact isOn_of_describes (honest _ _ nodes found _ isLit)
    | error error =>
        rw [found] at isLit
        cases isLit
  · intro moment member isLook
    obtain ⟨looked, same⟩ := clearable.reads (.queryAll .document toggles) last trivial atLast
    obtain ⟨other, again, -, throughout⟩ :=
      waitForThenClick_faces timings saveButton defaultStepTimeout false page (afterLook page last)
    obtain rfl : other = saving := Option.some.inj (again.symm.trans saves)
    have kept := throughout (fun state => holds state ∧ lit page state = []) ?_ ?_ ⟨looked, same.trans dark⟩
    · exact (kept moment member isLook).2
    · intro α call state reads now
      obtain ⟨still, unchanged⟩ := clearable.reads call state reads now.1
      exact ⟨still, unchanged.trans now.2⟩
    · intro time state now
      obtain ⟨still, unchanged⟩ := clearable.passes time state now.1
      exact ⟨still, unchanged.trans now.2⟩

/-- Whatever kind of page it faces, opting out comes to an end after at most 64 rounds and always goes on to the button
that saves.  If from the opening of the settings on only clicks on toggles that are on change which are on, each of
them puts out its toggle and lights no other, and no more than 64 are on at first, then there are no more rounds than
that; every click is on a toggle that is on at that moment, which is a button that is checked and not disabled if the
page finds what it has; and no toggle is on whenever the button that saves is looked up. -/
theorem optOut_rounds (timings : Timings) (page : Behaviour σ) (start : σ) :
    ∃ opening rounds last saving, OptsOut timings page start opening rounds last saving := by
  obtain ⟨opening, opens, -, -⟩ :=
    waitForThenClick_faces timings settingsButton defaultStepTimeout false page start
  obtain ⟨rounds, last, goes, within, ends, loops⟩ := clickToggles_faces page clickLimit opening.state
  obtain ⟨saving, saves, looks, -⟩ :=
    waitForThenClick_faces timings saveButton defaultStepTimeout false page (afterLook page last)
  have whole : (optOut timings).face page start = some (opening.after ((looped page rounds last).after saving)) := by
    rw [optOut_eq]
    exact Flow.face_andThen opens (Flow.face_andThen loops saves)
  refine ⟨opening, rounds, last, saving, opens, goes, within, clicked_looped page rounds last, saves, looks, whole,
    Flow.steps_of_face _ whole, ?_⟩
  intro holds clearable begins fits
  exact clears_of_rounds goes within ends saves clearable begins fits

/-- A click on either of two toggles puts out both of them; a third one can not be clicked. -/
theorem optOut_rounds_together :
    let page := Snapshot.ofText ("<div data-testid=modal-container><button aria-checked=true></button>" ++
      "<button aria-checked=true></button><button aria-checked=true disabled></button></div>")
    let hooked := { page with hooks := [(⟨[.last [.name "button"]]⟩, [.remove "button"])] }
    ∃ opening rounds last saving, OptsOut .usual .ofSnapshot hooked opening rounds last saving ∧
      lit .ofSnapshot opening.state = [4, 5] ∧ Clears .ofSnapshot opening rounds saving ∧
      (∀ round ∈ rounds, IsOn (afterLook .ofSnapshot round.state).document round.toggle) ∧
      ∃ time, (optOut .usual).settle hooked = some ⟨saving.value, time, saving.state⟩ := by
  intro page hooked
  obtain ⟨both, none, one, two⟩ : lit .ofSnapshot hooked = [4, 5] ∧
      (FixedPage.ofSnapshot hooked).elements .document settingsButton = [] ∧
      lit .ofSnapshot (afterPress .ofSnapshot hooked 4) = [] ∧
      lit .ofSnapshot (afterPress .ofSnapshot hooked 5) = [] := by decide +kernel
  -- From here on no value is needed, and none should be computed.
  clear_value hooked page
  have clearable : Clearable .ofSnapshot fun state => state = hooked ∨ lit .ofSnapshot state = [] := by
    refine ⟨?_, ?_, fun _ _ holds => ⟨holds, rfl⟩, ?_⟩
    · rintro state (rfl | dark)
      · rw [both]
        decide
      · rw [dark]
        exact List.nodup_nil
    · intro α call state reads holds
      have same : (Behaviour.ofSnapshot.reply call state).2 = state := state.perform_of_reads reads
      rw [same]
      exact ⟨holds, rfl⟩
    · rintro state toggle (rfl | dark) isLit
      · have out : lit .ofSnapshot (afterPress .ofSnapshot state toggle) = [] := by
          rw [both] at isLit
          rcases List.mem_pair.mp isLit with rfl | rfl
          · exact one
          · exact two
        refine ⟨.inr out, ?_, ?_⟩
        · rw [out]
          exact List.nil_subset _
        · rw [out]
          exact List.not_mem_nil
      · rw [dark] at isLit
        cases isLit
  obtain ⟨opening, rounds, last, saving, optsOut⟩ := optOut_rounds .usual .ofSnapshot hooked
  have begins : opening.state = hooked := opening_state none optsOut.opens
  have few : (lit .ofSnapshot opening.state).length ≤ 64 := by
    rw [begins, both]
    decide
  have clears := optsOut.clears _ clearable (.inl begins) few
  have settles : ∃ time, (optOut .usual).settle hooked = some ⟨saving.value, time, saving.state⟩ :=
    ⟨_, by rw [Flow.settle_eq_face, optsOut.whole]; rfl⟩
  have pressed := clears.isOn Behaviour.isHonest_ofSnapshot
  exact ⟨opening, rounds, last, saving, optsOut, begins ▸ both, clears, pressed, settles⟩

end Airbnb

end ConsentBanner

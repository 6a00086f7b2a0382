import ConsentBanner.Proofs.Action.Grounded
import ConsentBanner.Proofs.Flow.Settled
import ConsentBanner.Proofs.Page.Boxes
import ConsentBanner.Proofs.Page.Nesting

/-!
# Consent choices converge

On a page where nothing follows a click, rules that read boxes and switch them by clicks bring every box to its
wanted state, with one click on each that differs, and find nothing left to do when they are run again:
`Action.consent_converges`.
-/

set_option autoImplicit false

namespace ConsentBanner

open Flow.Grounded (OrFails Looks Targets)
open Rehearsal (playFlow)

/-! ## Lookups do not depend on boxes -/

theorem Snapshot.Resembles.perform {page other : Snapshot} (resembles : page.Resembles other) {α : Type}
    {call : PageCall α} (isLook : call.IsLook) : other.perform call = ((page.perform call).1, other) := by
  rw [Snapshot.perform, Snapshot.perform]
  have failing : other.failing = page.failing := by rw [resembles]
  rw [failing]
  split
  · rfl
  · rw [resembles]
    cases call with
    | queryAll scope selector => rfl
    | textContent node => rfl
    | computedStyle node property => rfl
    | offsetHeight node => rfl
    | isTopFrame => rfl
    | _ => exact isLook.elim

/-- What a page names in a reply belongs to it. -/
theorem Snapshot.attached_of_found {page : Snapshot} {α : Type} (call : PageCall α) :
    ∀ node ∈ call.found (page.perform call).1, page.isAttached node = true := by
  intro node found
  cases call with
  | queryAll scope selector =>
      rw [Snapshot.perform] at found
      split at found
      · cases found
      · rw [Snapshot.reply] at found
        cases answer : page.query scope selector with
        | ok nodes => exact Snapshot.query_attached answer node (by simpa [answer, PageCall.found] using found)
        | error error => simp [answer, PageCall.found] at found
  | _ => cases found

/-- A lookup leaves a page as it is, finds what belongs to it, and does the same on a page with other boxes
checked. -/
theorem Flow.Grounded.settle_resembling {α : Type} {scope : Scope} {good : α → List NodeId → Prop}
    {known : List NodeId} {flow : Flow α} {page other : Snapshot} (resembles : page.Resembles other)
    (grounded : Grounded scope.Sees good known flow) (attached : ∀ node ∈ known, page.isAttached node = true)
    {settled : Settled α} (settles : flow.settle page = some settled) :
    settled.page = page ∧ flow.settle other = some { settled with page := other } ∧
      ∃ found, good settled.value found ∧ ∀ node ∈ found, page.isAttached node = true := by
  induction grounded generalizing settled with
  | done ends =>
      cases settles
      exact ⟨rfl, rfl, _, ends, attached⟩
  | @page _ known call next allowed _ ih =>
      have same := resembles.perform allowed.1
      have stays := (Snapshot.Resembles.refl page).perform allowed.1
      rw [settle] at settles ⊢
      rw [same]
      rw [stays] at settles
      refine ih _ (fun node member => ?_) settles
      rcases List.mem_append.mp member with before | now
      · exact attached node before
      · exact page.attached_of_found call node now
  | @sleep _ time _ _ ih =>
      obtain ⟨first, isFirst, rfl⟩ := Option.map_eq_some_iff.mp settles
      obtain ⟨stays, again, found⟩ := ih attached isFirst
      refine ⟨stays, ?_, found⟩
      rw [settle, again]
      rfl
  | asleep => cases settles

/-! ## Rules that switch boxes -/

/-- Clicks are heard and boxes can be read, and nothing follows a click. -/
structure Snapshot.Responds (page : Snapshot) : Prop where
  hooks : page.hooks = []
  clicks : (PageCall.click 0).name ∉ page.failing
  reads : (PageCall.isChecked 0).name ∉ page.failing

theorem Snapshot.Responds.resembling {page other : Snapshot} (responds : page.Responds)
    (resembles : page.Resembles other) : other.Responds := by
  rw [resembles]
  exact ⟨responds.hooks, responds.clicks, responds.reads⟩

/-- A rule reads a box that its matcher finds, and switches it by a click on what the same matcher finds. -/
structure ConsentRule.Switches (page : Snapshot) (scope : Scope) (rule : ConsentRule) (node : NodeId) : Prop where
  toggles : ∃ matcher parent, rule.matcher = some ⟨.checkbox, matcher⟩ ∧ rule.toggleAction = some (.click matcher) ∧
    ((Lookup.find matcher scope).run.settle page).map Settled.value = some (.ok ⟨parent, some node⟩)
  box : page.IsBox node

variable {page other : Snapshot} {scope : Scope} {rule : ConsentRule} {node : NodeId} {timings : Timings}

theorem ConsentRule.Switches.resembling (switches : rule.Switches page scope node)
    (resembles : page.Resembles other) : rule.Switches other scope node := by
  obtain ⟨matcher, parent, isMatcher, isToggle, finds⟩ := switches.toggles
  obtain ⟨settled, settles, value⟩ := Option.map_eq_some_iff.mp finds
  have looks := Flow.Grounded.find matcher scope []
  obtain ⟨-, again, -⟩ := looks.settle_resembling resembles (fun _ => nofun) settles
  refine ⟨⟨matcher, parent, isMatcher, isToggle, ?_⟩, resembles.isBox switches.box⟩
  rw [again, Option.map_some, value]

theorem Snapshot.live_of_find {matcher : Matcher} {parent : Option NodeId} {element : Markup.Element}
    (finds : ((Lookup.find matcher scope).run.settle page).map Settled.value = some (.ok ⟨parent, some node⟩))
    (isElement : page.document.element? node = some element) :
    Succeeds (Lookup.find matcher scope) page ⟨parent, some node⟩ page ∧ page.live node = .ok element := by
  obtain ⟨settled, settles, found⟩ := Option.map_eq_some_iff.mp finds
  obtain ⟨stays, -, found, targets, attached⟩ :=
    (Flow.Grounded.find matcher scope []).settle_resembling (.refl page) (fun _ => nofun) settles
  obtain ⟨value, time, after⟩ := settled
  subst stays found
  have belongs := attached node (targets node rfl)
  refine ⟨⟨time, settles⟩, ?_⟩
  rw [Snapshot.live, isElement]
  exact if_pos belongs

theorem succeeds_runClick (responds : page.Responds) {matcher : Matcher} {parent : Option NodeId}
    {element : Markup.Element} (finds : Succeeds (Lookup.find matcher scope) page ⟨parent, some node⟩ page)
    (live : page.live node = .ok element) :
    Succeeds (runClick timings matcher scope) page () (page.clicked node element) := by
  have works : page.perform (.click node) = (.ok (), page.clicked node element) := by
    have hears : page.failing.contains (PageCall.click node).name = false := by
      simpa [PageCall.name] using responds.clicks
    rw [Snapshot.perform, hears, Snapshot.reply, live]
    rfl
  exact finds.look.chain ((Succeeds.call works).look.chain (.pause _ _))

theorem succeeds_isPresent (responds : page.Responds) {matcher : Matcher} {parent : Option NodeId}
    {element : Markup.Element} (finds : Succeeds (Lookup.find matcher scope) page ⟨parent, some node⟩ page)
    (live : page.live node = .ok element) :
    Succeeds (Lookup.isPresent ⟨.checkbox, matcher⟩ scope) page (page.isChecked node element) page := by
  have works : page.perform (.isChecked node) = (.ok (page.isChecked node element), page) := by
    have reads : page.failing.contains (PageCall.isChecked node).name = false := by
      simpa [PageCall.name] using responds.reads
    rw [Snapshot.perform, reads, Snapshot.reply, live]
    rfl
  exact finds.chain (Succeeds.call works)

/-- A rule brings its box to the wanted state. -/
theorem ConsentRule.Switches.run (switches : rule.Switches page scope node) (responds : page.Responds)
    (consents : List Category) :
    Succeeds (rule.run timings consents scope) page () (page.bring (node, isWanted consents rule.category)) := by
  obtain ⟨matcher, parent, isMatcher, isToggle, finds⟩ := switches.toggles
  obtain ⟨element, isElement, -⟩ := switches.box.element
  obtain ⟨found, live⟩ := Snapshot.live_of_find finds isElement
  have isOn : page.isOn node = page.isChecked node element := by rw [Snapshot.isOn, isElement]
  obtain ⟨category, _, _, whenTrue, whenFalse⟩ := rule
  subst isMatcher isToggle
  rw [ConsentRule.run, Snapshot.bring, isOn]
  refine (succeeds_isPresent responds found live).look.chain ?_
  by_cases granted : page.isChecked node element = isWanted consents category
  · simp only [granted, bne_self_eq_false, Bool.false_eq_true, if_false, if_true]
    exact .okay () page
  · have switched : page.switched node = page.clicked node element := by rw [Snapshot.switched, isElement]
    have differs : (page.isChecked node element != isWanted consents category) = true := by simpa using granted
    simp only [differs, granted, if_true, if_false, switched]
    rw [Action.run]
    exact succeeds_runClick responds found live

theorem isWanted_nil (category : Option Category) : isWanted [] category = false := by
  cases category <;> rfl

/-- The wanted states of the boxes of some rules. -/
def wishes (consents : List Category) (choices : List (ConsentRule × NodeId)) : List (NodeId × Bool) :=
  choices.map fun choice => (choice.2, isWanted consents choice.1.category)

theorem succeeds_runConsentRules {choices : List (ConsentRule × NodeId)} (consents : List Category)
    (responds : page.Responds) (switches : ∀ choice ∈ choices, choice.1.Switches page scope choice.2) :
    Succeeds (runConsentRules timings (choices.map Prod.fst) consents scope) page ()
      ((wishes consents choices).foldl Snapshot.bring page) := by
  induction choices generalizing page with
  | nil => exact .okay () page
  | cons choice rest ih =>
      have first := switches choice List.mem_cons_self
      have resembles : page.Resembles (page.bring (choice.2, isWanted consents choice.1.category)) :=
        Snapshot.resembles_bring responds.hooks first.box
      have others := ih (responds.resembling resembles) fun other member =>
        (switches other (List.mem_cons_of_mem choice member)).resembling resembles
      rw [List.map_cons, runConsentRules]
      exact (first.run responds consents).chain others

/-! ## Actions that are consent choices -/

/-- An action is a consent choice, or a list of them, with these rules. -/
inductive Action.Chooses : Action → List ConsentRule → Prop where
  | consent (rules : List ConsentRule) : Chooses (.consent rules) rules
  | list (groups : List (List ConsentRule)) : Chooses (.list (groups.map .consent)) groups.flatten

theorem Action.Chooses.run {action : Action} {rules : List ConsentRule} (chooses : action.Chooses rules)
    (consents : List Category) :
    action.run timings consents scope = runConsentRules timings rules consents scope := by
  cases chooses with
  | consent => rw [Action.run]
  | list groups =>
      rw [Action.run]
      induction groups with
      | nil => rw [List.map_nil, List.flatten_nil, runActions, runConsentRules]
      | cons group rest ih =>
          rw [List.map_cons, List.flatten_cons, runActions, Action.run, ih, runConsentRules_append]

/-- What comes of consent choices about boxes. -/
structure Converges (timings : Timings) (rehearsal : Rehearsal) (scope : Scope) (action : Action)
    (choices : List (ConsentRule × NodeId)) : Prop where
  /-- Wishes that agree are granted, by a click on each box that differs, and to run the choices again changes
  nothing. -/
  grants : ∀ consents, Snapshot.Agree (wishes consents choices) → ∃ last,
    rehearsal.ComesTo (action.run timings consents scope).run (.ok ()) last ∧
      rehearsal.world.page.Brought (wishes consents choices) last.world.page ∧
      ∃ again, last.ComesTo (action.run timings consents scope).run (.ok ()) again ∧
        again.world.page = last.world.page
  /-- Whatever was allowed first, to allow nothing then leaves no box checked. -/
  refuses : ∀ consents, ∃ middle last, rehearsal.ComesTo (action.run timings consents scope).run (.ok ()) middle ∧
    middle.ComesTo (action.run timings [] scope).run (.ok ()) last ∧
      ∀ choice ∈ choices, last.world.page.isOn choice.2 = false

/-- Nothing else happens in a rehearsal, its page responds to clicks, and rules switch boxes there. -/
structure Switchable (rehearsal : Rehearsal) (scope : Scope) (choices : List (ConsentRule × NodeId)) : Prop where
  calm : rehearsal.IsCalm
  responds : rehearsal.world.page.Responds
  switches : ∀ choice ∈ choices, choice.1.Switches rehearsal.world.page scope choice.2

variable {rehearsal : Rehearsal} {action : Action} {choices : List (ConsentRule × NodeId)}

theorem Switchable.boxes (switchable : Switchable rehearsal scope choices) (consents : List Category) :
    ∀ wish ∈ wishes consents choices, rehearsal.world.page.IsBox wish.1 := by
  intro wish member
  obtain ⟨choice, isChoice, rfl⟩ := List.mem_map.mp member
  exact (switchable.switches choice isChoice).box

/-- Choices are played to their end, and can be run again afterwards. -/
theorem Switchable.comesTo (switchable : Switchable rehearsal scope choices)
    (chooses : action.Chooses (choices.map Prod.fst)) (consents : List Category) :
    ∃ last, rehearsal.ComesTo (action.run timings consents scope).run (.ok ()) last ∧
      last.world.page = (wishes consents choices).foldl Snapshot.bring rehearsal.world.page ∧
      Switchable last scope choices := by
  obtain ⟨time, settles⟩ := succeeds_runConsentRules consents switchable.responds switchable.switches
  rw [← chooses.run] at settles
  obtain ⟨order, comes⟩ := switchable.calm.play _ settles
  have resembles := Snapshot.resembles_foldl_bring switchable.responds.hooks (switchable.boxes consents)
  exact ⟨_, comes, rfl, switchable.calm.rested _ _ _, switchable.responds.resembling resembles,
    fun choice member => (switchable.switches choice member).resembling resembles⟩

theorem agree_nothing (choices : List (ConsentRule × NodeId)) : Snapshot.Agree (wishes [] choices) := by
  have refused : ∀ wish ∈ wishes [] choices, wish.2 = false := by
    intro wish member
    obtain ⟨choice, -, rfl⟩ := List.mem_map.mp member
    exact isWanted_nil choice.1.category
  exact fun one isOne two isTwo _ => (refused one isOne).trans (refused two isTwo).symm

/-- Rules that read boxes and switch them by clicks bring them to their wanted states. -/
theorem Action.consent_converges (timings : Timings) (switchable : Switchable rehearsal scope choices)
    (chooses : action.Chooses (choices.map Prod.fst)) : Converges timings rehearsal scope action choices where
  grants consents agree := by
    obtain ⟨last, comes, isPage, still⟩ := switchable.comesTo chooses consents
    obtain ⟨again, more, same, -⟩ := still.comesTo chooses consents
    have brought := isPage ▸ Snapshot.brought switchable.responds.hooks agree (switchable.boxes consents)
    rw [Snapshot.foldl_bring_of_granted brought.granted] at same
    exact ⟨last, comes, brought, again, more, same⟩
  refuses consents := by
    obtain ⟨middle, comes, -, still⟩ := switchable.comesTo chooses consents
    obtain ⟨last, more, isPage, -⟩ := still.comesTo chooses []
    have brought := isPage ▸ Snapshot.brought still.responds.hooks (agree_nothing choices) (still.boxes [])
    refine ⟨middle, last, comes, more, fun choice member => ?_⟩
    exact (brought.granted _ (List.mem_map_of_mem member)).trans (isWanted_nil choice.1.category)

/-- One box is checked that should not be, and another one is not that should. -/
theorem Action.consent_converges_crossed :
    let page := Snapshot.ofText "<input id=a type=checkbox checked><input id=b type=checkbox>"
    let rule (category : Category) (selector : String) : ConsentRule :=
      ⟨some category, some ⟨.checkbox, .css selector⟩, some (.click (.css selector)), none, none⟩
    let action := Action.consent [rule .analytics "#a", rule .preferences "#b"]
    ∃ last, (Rehearsal.start (.start page) [] [] true).ComesTo (action.run .usual [.preferences] .document).run
      (.ok ()) last ∧ last.world.page.events = [.click 3, .click 4] := by
  intro page rule action
  have one : (rule .analytics "#a").Switches page .document 3 :=
    ⟨⟨.css "#a", none, rfl, rfl, by decide +kernel⟩, by decide +kernel⟩
  have two : (rule .preferences "#b").Switches page .document 4 :=
    ⟨⟨.css "#b", none, rfl, rfl, by decide +kernel⟩, by decide +kernel⟩
  have switchable : Switchable (Rehearsal.start (.start page) [] [] true) .document
      [(rule .analytics "#a", 3), (rule .preferences "#b", 4)] :=
    ⟨⟨rfl, rfl⟩, ⟨rfl, List.not_mem_nil, List.not_mem_nil⟩,
      List.forall_mem_cons.mpr ⟨one, List.forall_mem_singleton.mpr two⟩⟩
  obtain ⟨last, comes, brought, -⟩ := (consent_converges .usual switchable (.consent _)).grants [.preferences]
    (by decide +kernel)
  have clicked : last.world.page.events = [] ++ (page.differing [(3, false), (4, true)]).map .click :=
    brought.clicked
  have differ : page.differing [(3, false), (4, true)] = [3, 4] := by decide +kernel
  rw [differ] at clicked
  exact ⟨last, comes, clicked⟩

end ConsentBanner

import ConsentBanner.Proofs.Action.Consent
import ConsentBanner.Proofs.Engine.Waits
import ConsentBanner.Proofs.Page.Described
import ConsentBanner.Proofs.Page.Still
import ConsentBanner.Proofs.Query.Pairs
import ConsentBanner.Vendor.Uniconsent

/-!
# Purposes that are switched off by labels

Where nothing follows a click and no call fails, opting out clicks all buttons that manage options, then the boxes
that are checked, and then the first button that saves the choice.  No box is checked when the choice is saved:
`Uniconsent.optOut_unchecks`.
-/

set_option autoImplicit false

namespace ConsentBanner

/-! ## Flows that come to a value -/

/-- A flow that has a page to itself comes to a value, and leaves the page in some state. -/
def Flow.Yields {α : Type} (flow : Flow α) (page : Snapshot) (value : α) (after : Snapshot) : Prop :=
  ∃ time, flow.settle page = some ⟨value, time, after⟩

namespace Flow.Yields

variable {α β : Type} {flow : Flow α} {f : α → Flow β} {page middle after : Snapshot} {value : α} {result : β}

theorem done (value : α) (page : Snapshot) : (Flow.done value).Yields page value page := ⟨0, rfl⟩

theorem andThen (first : flow.Yields page value middle) (onward : (f value).Yields middle result after) :
    (flow.bind f).Yields page result after := by
  obtain ⟨one, first⟩ := first
  obtain ⟨two, onward⟩ := onward
  exact ⟨one + two, settle_andThen first onward⟩

theorem sleep (time : Nat) (yields : flow.Yields page value after) : (Flow.sleep time flow).Yields page value after := by
  obtain ⟨more, settles⟩ := yields
  exact ⟨time + more, by rw [settle, settles]; rfl⟩

theorem ofCall {call : PageCall α} {reply : Except PageError α} (replies : page.perform call = (reply, after)) :
    (Flow.page call).Yields page reply after := by
  refine ⟨0, ?_⟩
  change some (Settled.mk (page.perform call).1 0 (page.perform call).2) = _
  rw [replies]

theorem ofGlance (glance : flow.IsGlance) (comes : flow.consult (.ofSnapshot page) = some value) :
    flow.Yields page value page := by
  induction glance with
  | done _ =>
      cases comes
      exact done value page
  | @ask γ call next reads _ ih =>
      obtain ⟨time, settles⟩ := ih _ comes
      refine ⟨time, ?_⟩
      rw [settle, page.perform_of_reads reads]
      exact settles

/-- On a page that does not change by itself, polling comes to what is seen there. -/
theorem poll {attempt : Flow Bool} {answer : Bool} (glance : attempt.IsGlance)
    (comes : attempt.consult (.ofSnapshot page) = some answer) (interval : Nat) :
    ∀ retries, (Flow.poll attempt interval retries).Yields page answer page
  | 0 => ofGlance glance comes
  | retries + 1 => by
      refine (ofGlance glance comes).andThen ?_
      cases answer with
      | true => exact done true page
      | false => exact sleep interval (poll glance comes interval retries)

/-- Where nothing else happens, a flow is played like this. -/
theorem play {start : Rehearsal} (calm : start.IsCalm) (yields : flow.Yields start.world.page value after) :
    ∃ last, start.ComesTo flow value last ∧ last.world.page = after ∧ last.IsCalm := by
  obtain ⟨time, settles⟩ := yields
  obtain ⟨order, comes⟩ := calm.play flow settles
  exact ⟨_, comes, rfl, calm.rested _ _ _⟩

end Flow.Yields

/-! ## Pages on which clicks have no further effect -/

/-- Nothing follows a click, and no call fails. -/
structure Snapshot.IsIdle (page : Snapshot) : Prop where
  hooks : page.hooks = []
  failing : page.failing = []

namespace Snapshot

def logged (page : Snapshot) (nodes : List NodeId) : Snapshot :=
  { page with events := page.events ++ nodes.map .click }

variable {page other : Snapshot} {node : NodeId} {element : Markup.Element}

theorem IsIdle.resembling (idle : page.IsIdle) (resembles : page.Resembles other) : other.IsIdle := by
  rw [resembles]
  exact ⟨idle.hooks, idle.failing⟩

theorem IsIdle.perform (idle : page.IsIdle) {α : Type} (call : PageCall α) : page.perform call = page.reply call := by
  rw [Snapshot.perform, idle.failing]
  rfl

theorem resembles_logged (page : Snapshot) (nodes : List NodeId) : page.Resembles (page.logged nodes) := rfl

theorem logged_logged (page : Snapshot) (first second : List NodeId) :
    (page.logged first).logged second = page.logged (first ++ second) := by
  rw [logged, logged, logged, List.map_append, ← List.append_assoc]

theorem clicks_of_events {nodes : List NodeId} (events : other.events = page.events ++ nodes.map .click) :
    other.clicks = page.clicks ++ nodes := by
  rw [clicks, events, List.filterMap_append, List.filterMap_map, clicks]
  exact congrArg _ List.filterMap_some

theorem clicks_logged (page : Snapshot) (nodes : List NodeId) : (page.logged nodes).clicks = page.clicks ++ nodes :=
  clicks_of_events rfl

theorem isAttached_of_resembles (resembles : page.Resembles other) : other.isAttached node = page.isAttached node := by
  rw [resembles]
  rfl

theorem IsIdle.click_plain (idle : page.IsIdle) (live : page.live node = .ok element)
    (plain : isSwitch element = false) : page.perform (.click node) = (.ok (), page.logged [node]) := by
  have nothing : (page.record (.click node)).clickEffects node = [] := by
    rw [clickEffects, record, idle.hooks]
    rfl
  rw [idle.perform, reply, live]
  simp only [clicked, plain, Bool.false_eq_true, if_false, nothing]
  rfl

theorem IsIdle.click_box (idle : page.IsIdle) (attached : page.isAttached node = true) :
    page.perform (.click node) = (.ok (), page.switched node) := by
  obtain ⟨element, isElement, live⟩ := live_of_isAttached attached
  rw [idle.perform, reply, live, switched, isElement]

theorem IsIdle.isChecked (idle : page.IsIdle) (attached : page.isAttached node = true) :
    page.perform (.isChecked node) = (.ok (page.isOn node), page) := by
  obtain ⟨element, isElement, live⟩ := live_of_isAttached attached
  rw [idle.perform, reply, live, isOn, isElement]
  rfl

/-- What is found does not depend on boxes. -/
theorem elements_of_resembles (resembles : page.Resembles other) (selector : String) :
    (FixedPage.ofSnapshot other).elements .document selector =
      (FixedPage.ofSnapshot page).elements .document selector := by
  have looks : (PageCall.queryAll .document selector).IsLook := trivial
  have same : (other.perform (.queryAll .document selector)).1 = (page.perform (.queryAll .document selector)).1 := by
    rw [resembles.perform looks]
  exact congrArg (Primitive.orElse · []) same

theorem text_of_resembles (resembles : page.Resembles other) (node : NodeId) :
    (FixedPage.ofSnapshot other).text node = (FixedPage.ofSnapshot page).text node := by
  have looks : (PageCall.textContent node).IsLook := trivial
  have same : (other.perform (.textContent node)).1 = (page.perform (.textContent node)).1 := by
    rw [resembles.perform looks]
  exact congrArg (Primitive.orElse · "") same

end Snapshot

namespace Uniconsent

open Primitive (waitForElement clickNodes clickEach)
open Rehearsal (comesTo_done)

/-! ## Buttons -/

def labelledOn (page : FixedPage) (labels : List String) : List NodeId :=
  (page.elements .document buttons).filter fun node => labels.any (Text.contains (page.text node))

theorem keepLabelled_glance (labels : List String) (nodes : List NodeId) : (keepLabelled labels nodes).IsGlance := by
  induction nodes with
  | nil => exact .done []
  | cons node rest ih =>
      exact (Flow.IsGlance.ofCall (.textContent node) trivial "").bind fun _ => ih.bind fun _ => .done _

theorem consult_keepLabelled (page : FixedPage) (labels : List String) (nodes : List NodeId) :
    (keepLabelled labels nodes).consult page =
      some (nodes.filter fun node => labels.any (Text.contains (page.text node))) := by
  induction nodes with
  | nil => rfl
  | cons node rest ih =>
      change ((keepLabelled labels rest).bind fun others => Flow.done
        (if labels.any (Text.contains (page.text node)) then node :: others else others)).consult page = _
      rw [Flow.consult_bind, ih, List.filter_cons]
      rfl

theorem labelled_yields (page : Snapshot) (labels : List String) :
    (labelled labels).Yields page (labelledOn (.ofSnapshot page) labels) page := by
  refine .ofGlance ?_ ?_
  · exact (Flow.IsGlance.query buttons).bind fun _ => keepLabelled_glance _ _
  · change (keepLabelled labels ((FixedPage.ofSnapshot page).elements .document buttons)).consult _ = _
    exact consult_keepLabelled _ _ _

theorem wait_yields (timings : Timings) (page : Snapshot) (selector : String) (limit : Nat) :
    (waitForElement timings selector limit).Yields page ((FixedPage.ofSnapshot page).shows selector) page :=
  .poll (.isPresent selector) (Flow.consult_isPresent _ selector) _ _

theorem labelledOn_of_resembles {page other : Snapshot} (resembles : page.Resembles other) (labels : List String) :
    labelledOn (.ofSnapshot other) labels = labelledOn (.ofSnapshot page) labels := by
  simp only [labelledOn, Snapshot.elements_of_resembles resembles, Snapshot.text_of_resembles resembles]

theorem query_yields (page : Snapshot) (selector : String) :
    (Primitive.query selector).Yields page ((FixedPage.ofSnapshot page).elements .document selector) page :=
  .ofGlance (.query selector) rfl

variable {page : Snapshot}

/-- A button is live, and clicks do not switch it. -/
theorem plain_of_labelledOn {labels : List String} {node : NodeId}
    (member : node ∈ labelledOn (.ofSnapshot page) labels) :
    ∃ element, page.live node = .ok element ∧ Snapshot.isSwitch element = false := by
  have asks : Selector.asksFor buttons (Selector.Condition.isName "button") = true := by decide +kernel
  obtain ⟨described, attached⟩ := FixedPage.describes_of_mem_elements (List.mem_filter.mp member).1
  obtain ⟨element, isElement, live⟩ := Snapshot.live_of_isAttached attached
  obtain ⟨other, isOther, name⟩ := Selector.name_of_describes asks (by decide +kernel) described
  obtain rfl : element = other := Option.some.inj (isElement.symm.trans isOther)
  exact ⟨element, live, by simp [Snapshot.isSwitch, name]⟩

theorem clickEach_yields {nodes : List NodeId} (idle : page.IsIdle)
    (plain : ∀ node ∈ nodes, ∃ element, page.live node = .ok element ∧ Snapshot.isSwitch element = false) :
    (clickEach nodes).Yields page () (page.logged nodes) := by
  induction nodes generalizing page with
  | nil => exact ⟨0, by simp [Snapshot.logged, clickEach, Flow.settle, pure]⟩
  | cons node rest ih =>
      obtain ⟨element, live, isPlain⟩ := plain node List.mem_cons_self
      have still : (page.logged [node]).IsIdle := idle.resembling (page.resembles_logged _)
      have others := ih still fun other member => plain other (List.mem_cons_of_mem node member)
      rw [Snapshot.logged_logged] at others
      exact (Flow.Yields.ofCall (idle.click_plain live isPlain)).andThen others

theorem clickNodes_yields {node : NodeId} {reply : Except PageError Unit} {after : Snapshot}
    (clicks : page.perform (.click node) = (reply, after)) : (clickNodes [node] false).Yields page true after :=
  ((Flow.Yields.ofCall clicks).andThen (.done () after)).andThen (.done true after)

/-! ## Boxes -/

/-- The wishes that boxes be off. -/
def off (nodes : List NodeId) : List (NodeId × Bool) := nodes.map (·, false)

/-- What is found in all places where boxes are looked for. -/
def boxesOn (page : FixedPage) : List NodeId := page.elements .document checkboxes

/-- Boxes are found as inputs; that they are spelled as check boxes makes clicks switch them. -/
theorem isBox_of_boxesOn {node : NodeId} (member : node ∈ boxesOn (.ofSnapshot page))
    (spelled : ((page.document.element? node).bind (·.attribute? "type")) = some "checkbox") :
    page.IsBox node ∧ page.isAttached node = true := by
  have asks : Selector.asksFor checkboxes (Selector.Condition.isName "input") = true := by decide +kernel
  obtain ⟨described, attached⟩ := FixedPage.describes_of_mem_elements member
  obtain ⟨element, isElement, name⟩ := Selector.name_of_describes asks (by decide +kernel) described
  rw [isElement, Option.bind_some] at spelled
  refine ⟨?_, attached⟩
  rw [Snapshot.IsBox, isElement]
  simp [Snapshot.isSwitch, name, spelled]

/-- Reading each box and clicking those that are checked brings all of them to the wanted state. -/
theorem uncheckEach_yields {nodes : List NodeId} (idle : page.IsIdle)
    (boxes : ∀ node ∈ nodes, page.IsBox node ∧ page.isAttached node = true) :
    (uncheckEach nodes).Yields page () ((off nodes).foldl Snapshot.bring page) := by
  induction nodes generalizing page with
  | nil => exact .done () page
  | cons node rest ih =>
      obtain ⟨box, attached⟩ := boxes node List.mem_cons_self
      have resembles : page.Resembles (page.bring (node, false)) := Snapshot.resembles_bring idle.hooks box
      have others := ih (idle.resembling resembles) fun other member => by
        obtain ⟨isBox, isAttached⟩ := boxes other (List.mem_cons_of_mem node member)
        exact ⟨resembles.isBox isBox, (Snapshot.isAttached_of_resembles resembles).trans isAttached⟩
      have step : (off (node :: rest)).foldl Snapshot.bring page =
          (off rest).foldl Snapshot.bring (page.bring (node, false)) := rfl
      rw [step]
      refine .andThen (.andThen (.ofCall (idle.isChecked attached)) (.done _ page)) ?_
      cases on : page.isOn node with
      | true =>
          have switched : page.bring (node, false) = page.switched node := by simp [Snapshot.bring, on]
          rw [switched] at others ⊢
          exact (clickNodes_yields (idle.click_box attached)).andThen others
      | false =>
          have kept : page.bring (node, false) = page := by simp [Snapshot.bring, on]
          rw [kept] at others ⊢
          exact others

theorem eraseDups_of_nodup {nodes : List NodeId} (distinct : nodes.Nodup) : nodes.eraseDups = nodes := by
  induction nodes with
  | nil => rfl
  | cons node rest ih =>
      obtain ⟨new, others⟩ := List.nodup_cons.mp distinct
      have kept : (rest.filter fun other => !(other == node)) = rest := by
        rw [List.filter_eq_self]
        intro other member
        simpa using fun same : other = node => new (same ▸ member)
      rw [List.eraseDups_cons, kept, ih others]

/-- What was brought off was clicked if it was checked. -/
theorem differing_off {nodes : List NodeId} (distinct : nodes.Nodup) :
    page.differing (off nodes) = nodes.filter page.isOn := by
  have filtered : ((off nodes).filter fun wish => page.isOn wish.1 != wish.2).map Prod.fst =
      nodes.filter page.isOn := by
    rw [off, List.filter_map, List.map_map]
    simp [Function.comp_def]
  rw [Snapshot.differing, filtered]
  exact eraseDups_of_nodup (distinct.filter _)

/-! ## Opting out -/

/-- What comes before the choice is saved; says whether there are boxes. -/
def prepare (timings : Timings) : Flow Bool := do
  let _ ← waitForElement timings buttons 1000
  let _ ← clickNodes (← labelled manageLabels) true
  if ← waitForElement timings checkboxes 1000 then
    let _ ← waitForElement timings buttons 1000
    uncheckEach (← Primitive.query checkboxes)
    return true
  else return false

theorem optOut_eq (timings : Timings) :
    optOut timings = (prepare timings).bind fun found => if found then save else .done false := by
  change _ = prepare timings >>= fun found => if found then save else pure false
  simp only [prepare, bind_assoc]
  refine congrArg (bind (waitForElement timings buttons 1000)) (funext fun _ => ?_)
  refine congrArg (bind (labelled manageLabels)) (funext fun _ => ?_)
  refine congrArg (bind (clickNodes _ true)) (funext fun _ => ?_)
  refine congrArg (bind (waitForElement timings checkboxes 1000)) (funext fun found => ?_)
  cases found with
  | true => simp
  | false => simp

/-- A box is spelled as a check box. -/
def Spelled (page : Snapshot) (node : NodeId) : Prop :=
  ((page.document.element? node).bind (·.attribute? "type")) = some "checkbox"

/-- The page after all buttons that manage options were clicked, and the boxes that were checked. -/
def cleared (page : Snapshot) : Snapshot :=
  (off (boxesOn (.ofSnapshot page))).foldl Snapshot.bring
    (page.logged (labelledOn (.ofSnapshot page) manageLabels))

theorem brought_cleared (idle : page.IsIdle) (spelled : ∀ box ∈ boxesOn (.ofSnapshot page), Spelled page box) :
    (page.logged (labelledOn (.ofSnapshot page) manageLabels)).Brought (off (boxesOn (.ofSnapshot page)))
      (cleared page) := by
  have agree : Snapshot.Agree (off (boxesOn (.ofSnapshot page))) := by
    have refused : ∀ wish ∈ off (boxesOn (.ofSnapshot page)), wish.2 = false := by
      intro wish member
      obtain ⟨node, -, rfl⟩ := List.mem_map.mp member
      rfl
    exact fun one isOne two isTwo _ => (refused one isOne).trans (refused two isTwo).symm
  refine Snapshot.brought idle.hooks agree fun wish member => ?_
  obtain ⟨node, isBox, rfl⟩ := List.mem_map.mp member
  exact (isBox_of_boxesOn isBox (spelled node isBox)).1

/-- What is clicked before the choice is saved, and that no box is checked then. -/
theorem cleared_spec (idle : page.IsIdle) (spelled : ∀ box ∈ boxesOn (.ofSnapshot page), Spelled page box) :
    page.Resembles (cleared page) ∧
      (cleared page).clicks = page.clicks ++ (labelledOn (.ofSnapshot page) manageLabels ++
        (boxesOn (.ofSnapshot page)).filter page.isOn) ∧
      ∀ box ∈ boxesOn (.ofSnapshot page), (cleared page).isOn box = false := by
  have distinct : (boxesOn (.ofSnapshot page)).Nodup := by
    rw [boxesOn, FixedPage.elements]
    cases reply : (FixedPage.ofSnapshot page).reply (.queryAll .document checkboxes) with
    | ok nodes => exact page.isDistinct _ _ nodes reply
    | error error => exact List.nodup_nil
  have brought := brought_cleared idle spelled
  refine ⟨(page.resembles_logged _).trans brought.resembles, ?_, ?_⟩
  · rw [Snapshot.clicks_of_events brought.clicked, Snapshot.clicks_logged, differing_off distinct, List.append_assoc]
    rfl
  · intro box member
    exact brought.granted (box, false) (List.mem_map_of_mem member)

theorem prepare_yields (timings : Timings) (idle : page.IsIdle)
    (spelled : ∀ box ∈ boxesOn (.ofSnapshot page), Spelled page box) :
    (prepare timings).Yields page (!(boxesOn (.ofSnapshot page)).isEmpty) (cleared page) := by
  let managers := labelledOn (.ofSnapshot page) manageLabels
  have resembles : page.Resembles (page.logged managers) := page.resembles_logged managers
  have still : (page.logged managers).IsIdle := idle.resembling resembles
  have found := query_yields (page.logged managers) checkboxes
  have shown := wait_yields timings (page.logged managers) checkboxes 1000
  rw [FixedPage.shows] at shown
  rw [Snapshot.elements_of_resembles resembles, ← boxesOn] at found shown
  have clicks : (clickNodes managers true).Yields page (!managers.isEmpty) (page.logged managers) :=
    (clickEach_yields idle fun node member => plain_of_labelledOn member).andThen (.done _ _)
  refine (wait_yields timings page buttons 1000).andThen ?_
  refine (labelled_yields page manageLabels).andThen (clicks.andThen ?_)
  refine shown.andThen ?_
  cases none : (boxesOn (.ofSnapshot page)).isEmpty with
  | true =>
      have kept : cleared page = page.logged managers := by
        rw [cleared, List.isEmpty_iff.mp none]
        rfl
      rw [kept]
      exact .done false _
  | false =>
      refine (wait_yields timings _ buttons 1000).andThen (found.andThen ?_)
      refine .andThen (uncheckEach_yields still fun box member => ?_) (.done true _)
      obtain ⟨isBox, attached⟩ := isBox_of_boxesOn member (spelled box member)
      exact ⟨resembles.isBox isBox, (Snapshot.isAttached_of_resembles resembles).trans attached⟩

/-- The choice is saved by the first button for that, if there is one. -/
theorem save_yields (idle : page.IsIdle) :
    save.Yields page (!(labelledOn (.ofSnapshot page) saveLabels).isEmpty)
      (page.logged (labelledOn (.ofSnapshot page) saveLabels).head?.toList) := by
  refine (labelled_yields page saveLabels).andThen ?_
  have plain : ∀ node ∈ labelledOn (.ofSnapshot page) saveLabels,
      ∃ element, page.live node = .ok element ∧ Snapshot.isSwitch element = false := fun _ => plain_of_labelledOn
  generalize labelledOn (.ofSnapshot page) saveLabels = savers at plain ⊢
  cases savers with
  | nil =>
      have nothing : page.logged [] = page := by simp [Snapshot.logged]
      rw [List.head?_nil, Option.toList_none, nothing]
      exact .done false page
  | cons saver others =>
      obtain ⟨element, live, isPlain⟩ := plain saver List.mem_cons_self
      exact (clickNodes_yields (idle.click_plain live isPlain)).andThen (.sleep 500 (.done true _))

/-- Where nothing else happens to a page, on which nothing follows a click, no call fails and all boxes are spelled as
check boxes, opting out comes to an end.  It says yes exactly if there are a box and a button that saves the choice.
Then its clicks are those on all buttons that manage options, on the boxes that were checked, each once, and on the
first button that saves; no box is checked before that last click, nor afterwards.  If it says no, the clicks are the
same without the last one. -/
theorem optOut_unchecks (timings : Timings) {start : Rehearsal} (calm : start.IsCalm) (idle : start.world.page.IsIdle)
    (spelled : ∀ box ∈ boxesOn (.ofSnapshot start.world.page), Spelled start.world.page box) :
    let page := FixedPage.ofSnapshot start.world.page
    let changed := labelledOn page manageLabels ++ (boxesOn page).filter start.world.page.isOn
    ∃ result last, start.ComesTo (optOut timings) result last ∧ start.world.page.Resembles last.world.page ∧
      (result = true ↔ boxesOn page ≠ [] ∧ labelledOn page saveLabels ≠ []) ∧
      (result = true → ∃ before saver, (labelledOn page saveLabels).head? = some saver ∧
        start.ComesTo (prepare timings) true before ∧ before.ComesTo save true last ∧
        before.world.page.clicks = start.world.page.clicks ++ changed ∧
        last.world.page.clicks = before.world.page.clicks ++ [saver] ∧
        ∀ box ∈ boxesOn page, before.world.page.isOn box = false ∧ last.world.page.isOn box = false) ∧
      (result = false → last.world.page.clicks = start.world.page.clicks ++ changed) := by
  intro page changed
  obtain ⟨resembles, clicks, off⟩ := cleared_spec idle spelled
  obtain ⟨before, prepared, isPage, still⟩ := (prepare_yields timings idle spelled).play calm
  have same : labelledOn (.ofSnapshot before.world.page) saveLabels = labelledOn page saveLabels := by
    rw [isPage]
    exact labelledOn_of_resembles resembles saveLabels
  have idle' : before.world.page.IsIdle := isPage ▸ idle.resembling resembles
  obtain ⟨last, saved, isLast, -⟩ := (save_yields idle').play still
  rw [same] at saved isLast
  rw [← isPage] at clicks off resembles
  have ending : start.world.page.Resembles last.world.page := by
    rw [isLast]
    exact resembles.trans (before.world.page.resembles_logged _)
  rw [optOut_eq]
  cases boxes : boxesOn page with
  | nil =>
      rw [boxes] at prepared
      refine ⟨false, before, prepared.chain comesTo_done, resembles, ?_, by simp, fun _ => clicks⟩
      simp
  | cons box others =>
      rw [boxes] at prepared off
      cases savers : labelledOn page saveLabels with
      | nil =>
          rw [savers] at saved isLast
          refine ⟨false, last, prepared.chain saved, ending, ?_, by simp, fun _ => ?_⟩
          · simp
          · rw [isLast, Snapshot.clicks_logged, clicks]
            exact List.append_nil _
      | cons saver later =>
          rw [savers] at saved isLast
          refine ⟨true, last, prepared.chain saved, ending, ?_, fun _ => ?_, by simp⟩
          · simp
          · refine ⟨before, saver, rfl, prepared, saved, clicks, ?_, fun one member => ⟨off one member, ?_⟩⟩
            · rw [isLast, Snapshot.clicks_logged]
              rfl
            · rw [isLast]
              exact off one member

/-- Settings with one box that is checked and one that is not. -/
theorem optOut_unchecks_settings :
    let page := Snapshot.ofText ("<div class=unic><button>Manage Options</button><input type=checkbox checked>" ++
      "<input type=checkbox><button>Save Choices</button></div>")
    let start := Rehearsal.start (.start page) [] [] false
    start.IsCalm ∧ start.world.page.IsIdle ∧
      (∀ box ∈ boxesOn (.ofSnapshot start.world.page), Spelled start.world.page box) ∧
      ∃ last, start.ComesTo (optOut .usual) true last ∧ last.world.page.clicks = [4, 5, 7] ∧
        last.world.page.isOn 5 = false ∧ last.world.page.isOn 6 = false := by
  intro page start
  have calm : start.IsCalm := ⟨rfl, rfl⟩
  have idle : start.world.page.IsIdle := ⟨rfl, rfl⟩
  have fresh : start.world.page.clicks = [] := rfl
  have isPage : start.world.page = page := rfl
  obtain ⟨boxes, spelled, checked, managers, savers⟩ : boxesOn (.ofSnapshot page) = [5, 6] ∧
      (∀ box ∈ [5, 6], (page.document.element? box).bind (·.attribute? "type") = some "checkbox") ∧
      [5, 6].filter page.isOn = [5] ∧ labelledOn (.ofSnapshot page) manageLabels = [4] ∧
      labelledOn (.ofSnapshot page) saveLabels = [7] := by decide +kernel
  -- From here on no value is needed, and none should be computed.
  clear_value start page
  subst isPage
  have allSpelled : ∀ box ∈ boxesOn (.ofSnapshot start.world.page), Spelled start.world.page box := boxes ▸ spelled
  refine ⟨calm, idle, allSpelled, ?_⟩
  obtain ⟨result, last, comes, -, meaning, saves, -⟩ := optOut_unchecks .usual calm idle allSpelled
  rw [boxes, savers] at meaning
  obtain rfl : result = true := meaning.mpr ⟨nofun, nofun⟩
  obtain ⟨before, saver, first, -, -, clicks, lastClick, off⟩ := saves rfl
  rw [savers] at first
  obtain rfl : 7 = saver := Option.some.inj first
  rw [managers, boxes, checked, fresh] at clicks
  rw [clicks] at lastClick
  rw [boxes] at off
  exact ⟨last, comes, lastClick, (off 5 (by decide)).2, (off 6 (by decide)).2⟩

end Uniconsent

end ConsentBanner

import ConsentBanner.Proofs.Page.Display
import ConsentBanner.Proofs.Page.Still
import Mathlib.Algebra.Ring.Parity

/-!
# Checked elements and clicks

Whatever happens to a page, an element is checked if it was checked at first and was not switched since, or the other
way round; and it was switched by every click on it that succeeded, if clicks switch it at all.  The log has these
clicks in their order.  `Snapshot.Turns` is one thing that happens to a page, with the clicks that succeeded in it;
`Snapshot.Tallies` is what is kept count of, step by step; `Snapshot.checked_law` is about whole lives of pages.
-/

set_option autoImplicit false

namespace ConsentBanner

namespace Snapshot

variable {page next later start : Snapshot} {clicked more : List NodeId} {node : NodeId} {element : Markup.Element}

/-- A number of switches changes a state: they are odd in number. -/
def isOdd (count : Nat) : Bool := decide (Odd count)

theorem isOdd_add (one two : Nat) : isOdd (one + two) = (isOdd one ^^ isOdd two) := by
  unfold isOdd
  rw [Bool.eq_iff_iff, decide_eq_true_iff, Nat.odd_add, ← Nat.not_odd_iff_even]
  by_cases first : Odd one
  · by_cases second : Odd two
    · simp [first, second]
    · simp [first, second]
  · by_cases second : Odd two
    · simp [first, second]
    · simp [first, second]

/-! ## What is kept count of -/

/-- Between a page and a later one certain clicks were logged, and they have switched what they switch. -/
structure Tallies (page : Snapshot) (clicked : List NodeId) (later : Snapshot) : Prop extends page.Precedes later where
  clicks : later.clicks = page.clicks ++ clicked
  checked : ∀ node element, page.document.element? node = some element →
    later.isChecked node element = (page.isChecked node element ^^ (isSwitch element && isOdd (clicked.count node)))

namespace Tallies

/-- Where nothing was logged as a click and nothing was checked, nothing counts. -/
theorem ofQuiet (precedes : page.Precedes later) (clicks : later.clicks = page.clicks)
    (checked : later.checked = page.checked) : page.Tallies [] later := by
  refine ⟨precedes, ?_, ?_⟩
  · rw [clicks, List.append_nil]
  · intro node element _
    simp [isChecked, checked, isOdd]

theorem trans (first : page.Tallies clicked next) (second : next.Tallies more later) :
    page.Tallies (clicked ++ more) later := by
  refine ⟨first.toPrecedes.trans second.toPrecedes, ?_, ?_⟩
  · rw [second.clicks, first.clicks, List.append_assoc]
  · intro node element known
    have stays : next.document.element? node = some element := by
      rw [first.document]
      exact known
    rw [second.checked node element stays, first.checked node element known, List.count_append, isOdd_add]
    cases isSwitch element with
    | true => simp
    | false => simp

theorem live (tallies : page.Tallies clicked later) (isLive : later.live node = .ok element) :
    page.live node = .ok element := by
  have same : page.document = later.document := tallies.document.symm
  have fewer : later.isAttached node = true → page.isAttached node = true := by
    simp only [isAttached, Bool.and_eq_true, List.all_eq_true, Bool.not_eq_true', List.contains_eq_mem,
      decide_eq_false_iff_not, same]
    rintro ⟨known, present⟩
    exact ⟨known, fun other member removed => present other member (tallies.removed removed)⟩
  rw [Snapshot.live] at isLive ⊢
  rw [same]
  split at isLive
  · next element known =>
      split at isLive
      · next attached =>
          rw [if_pos (fewer attached)]
          exact isLive
      · cases isLive
  · cases isLive

end Tallies

theorem tallies_apply (page : Snapshot) (effect : Effect) : page.Tallies [] (page.apply effect) := by
  refine .ofQuiet (page.precedes_apply effect) ?_ ?_
  · cases effect <;> rfl
  · cases effect <;> rfl

theorem tallies_applyAll (effects : List Effect) (page : Snapshot) : page.Tallies [] (page.applyAll effects) := by
  induction effects generalizing page with
  | nil => exact .ofQuiet (.refl page) rfl rfl
  | cons effect rest ih => exact (page.tallies_apply effect).trans (ih (page.apply effect))

theorem tallies_pressed (live : page.live node = .ok element) : page.Tallies [node] (page.pressed node element) := by
  refine ⟨page.precedes_pressed node element, ?_, ?_⟩
  · have recorded := page.clicks_record node
    rw [pressed]
    split
    · exact recorded
    · exact recorded
  · intro other there known
    by_cases same : node = other
    · subst same
      -- Both are the element of that number.
      obtain rfl : element = there := Option.some.inj ((element?_of_live live).symm.trans known)
      by_cases switches : isSwitch element = true
      · simp [pressed, switches, isChecked, Keyed.get?_put_self, record, isOdd]
      · simp [pressed, switches, isChecked, record]
    · have none : isOdd ([node].count other) = false := by
        rw [List.count_eq_zero_of_not_mem (by simpa using Ne.symm same)]
        rfl
      rw [none, Bool.and_false, Bool.xor_false, pressed]
      split
      · simp [isChecked, record, Keyed.get?_put_of_ne _ _ same]
      · rfl

theorem tallies_clicked (live : page.live node = .ok element) : page.Tallies [node] (page.clicked node element) := by
  rw [clicked_eq]
  exact (tallies_pressed live).trans (tallies_applyAll _ _)

/-- Other entries of the log count for nothing. -/
theorem tallies_record (page : Snapshot) {event : PageEvent} (other : ∀ node, event ≠ .click node) :
    page.Tallies [] (page.record event) := by
  refine .ofQuiet ⟨rfl, List.Subset.refl _⟩ ?_ rfl
  rw [clicks, record, List.filterMap_append]
  cases event with
  | click node => exact absurd rfl (other node)
  | _ => exact List.append_nil _

/-- The element that a call clicked, if it is a click and succeeds. -/
def clickedBy (page : Snapshot) : {α : Type} → PageCall α → List NodeId
  | _, .click node =>
    match (page.reply (.click node)).1 with
    | .ok _ => [node]
    | .error _ => []
  | _, _ => []

theorem tallies_reply (page : Snapshot) {α : Type} (call : PageCall α) :
    page.Tallies (page.clickedBy call) (page.reply call).2 := by
  cases call with
  | click node =>
      cases live : page.live node with
      | ok element =>
          simp only [clickedBy, reply, live]
          exact tallies_clicked live
      | error error =>
          simp only [clickedBy, reply, live]
          exact .ofQuiet (.refl page) rfl rfl
  | addClass node name =>
      cases live : page.live node with
      | ok element =>
          simp only [clickedBy, reply, live]
          have marked : page.Tallies [] { page with classes := page.classes ++ [(node, name)] } :=
            .ofQuiet ⟨rfl, List.Subset.refl _⟩ rfl rfl
          exact marked.trans (tallies_record _ (by simp))
      | error error =>
          simp only [clickedBy, reply, live]
          exact .ofQuiet (.refl page) rfl rfl
  | dispatchMouse node kind x y =>
      cases live : page.live node with
      | ok element =>
          simp only [clickedBy, reply, live]
          exact page.tallies_record (by simp)
      | error error =>
          simp only [clickedBy, reply, live]
          exact .ofQuiet (.refl page) rfl rfl
  | evaluate code =>
      have none : page.clickedBy (.evaluate code) = [] := rfl
      rw [none, reply]
      split
      · exact page.tallies_record (by simp)
      · exact page.tallies_record (by simp)
  | close => exact page.tallies_record (by simp)
  | _ => exact .ofQuiet (precedes_reply page _) rfl rfl

theorem tallies_onClick {selector : String} {effects : List Effect}
    (hooks : page.onClick selector effects = .ok later) : page.Tallies [] later := by
  have precedes := precedes_onClick hooks
  rw [onClick] at hooks
  split at hooks
  · cases hooks
    exact .ofQuiet precedes rfl rfl
  · cases hooks

/-! ## Lives of pages -/

/-- One thing that happens to a page, and the clicks that succeeded in it.  A click may be taken at once, with all
that was to follow it, or at the moment at which it is logged: then what follows it is whatever happens next, and
other clicks may come before its end. -/
inductive Turns (page : Snapshot) : List NodeId → Snapshot → Prop where
  | call {α : Type} (call : PageCall α) : Turns page (page.clickedBy call) (page.reply call).2
  | press {node : NodeId} {element : Markup.Element} (live : page.live node = .ok element) :
      Turns page [node] (page.pressed node element)
  | effect (effect : Effect) : Turns page [] (page.apply effect)
  | hook {selector : String} {effects : List Effect} {hooked : Snapshot}
      (hooks : page.onClick selector effects = .ok hooked) : Turns page [] hooked
  | frame (isTop : Bool) : Turns page [] { page with topFrame := isTop }

theorem Turns.tallies (turns : page.Turns clicked later) : page.Tallies clicked later := by
  cases turns with
  | call call => exact page.tallies_reply call
  | press live => exact tallies_pressed live
  | effect effect => exact page.tallies_apply effect
  | hook hooks => exact tallies_onClick hooks
  | frame isTop => exact .ofQuiet ⟨rfl, List.Subset.refl _⟩ rfl rfl

/-- All that has happened to a page so far, with the clicks that succeeded, in order. -/
inductive Life (start : Snapshot) : List NodeId → Snapshot → Prop where
  | begin : Life start [] start
  | next {clicked more : List NodeId} {page later : Snapshot} (life : Life start clicked page)
      (turns : page.Turns more later) : Life start (clicked ++ more) later

theorem Life.tallies (life : start.Life clicked page) : start.Tallies clicked page := by
  induction life with
  | begin => exact .ofQuiet (.refl start) rfl rfl
  | next _ turns ih => exact ih.trans turns.tallies

theorem reply_isChecked (live : page.live node = .ok element) :
    (page.reply (.isChecked node)).1 = .ok (page.isChecked node element) := by
  rw [reply, live]
  rfl

/-- Throughout the life of a page that begins with nothing checked beyond its markup and an empty log: the log has
one click for each that succeeded, in order; a live element is checked if its markup says so or, if it is a check box
or a radio button, an odd number of clicks on it has succeeded, but not both; and whatever happens next, elements on
which no click succeeds by it are checked or not as before. -/
theorem checked_law (unchecked : start.checked = []) (fresh : start.clicks = []) (life : start.Life clicked page) :
    page.clicks = clicked ∧
      (∀ node element, page.live node = .ok element →
        (page.reply (.isChecked node)).1 =
          .ok (element.hasAttribute "checked" ^^ (isSwitch element && decide (Odd (clicked.count node))))) ∧
      ∀ more later, page.Turns more later → ∀ node element, later.live node = .ok element → node ∉ more →
        (later.reply (.isChecked node)).1 = (page.reply (.isChecked node)).1 := by
  have tallies := life.tallies
  refine ⟨?_, ?_, ?_⟩
  · rw [tallies.clicks, fresh, List.nil_append]
  · intro node element live
    have known := element?_of_live (tallies.live live)
    have first : start.isChecked node element = element.hasAttribute "checked" := by
      rw [isChecked, unchecked]
      rfl
    rw [reply_isChecked live, tallies.checked node element known, first]
    rfl
  · intro more later turns node element live apart
    have step := turns.tallies
    have before := step.live live
    have none : isOdd (more.count node) = false := by
      rw [List.count_eq_zero_of_not_mem apart]
      rfl
    rw [reply_isChecked live, reply_isChecked before, step.checked node element (element?_of_live before), none,
      Bool.and_false, Bool.xor_false]

/-- A click on a box takes away a banner that the box does not stand in. -/
theorem checked_law_box :
    let page := ofText "<div id=banner></div><input type=checkbox checked>"
    let hooked := { page with hooks := [(⟨[.last [.name "input"]]⟩, [.remove "#banner"])] }
    let after := (hooked.reply (.click 4)).2
    page.onClick "input" [.remove "#banner"] = .ok hooked ∧ page.checked = [] ∧ page.clicks = [] ∧
      page.Life [4] after ∧ after.clicks = [4] ∧ (after.reply (.isChecked 4)).1 = .ok false ∧
      ∀ later, after.Turns [] later → (∃ element, later.live 4 = .ok element) →
        (later.reply (.isChecked 4)).1 = .ok false := by
  intro page hooked after
  have hooks : page.onClick "input" [.remove "#banner"] = .ok hooked := by
    have known : Selector.ofText? "input" = some ⟨[.last [.name "input"]]⟩ := rfl
    rw [onClick, known]
    rfl
  have unchecked : page.checked = [] := rfl
  have fresh : page.clicks = [] := rfl
  obtain ⟨succeeds, attached, box⟩ : hooked.clickedBy (.click 4) = [4] ∧ after.isAttached 4 = true ∧
      ((page.document.element? 4).any fun element =>
        element.hasAttribute "checked" && isSwitch element) = true := by decide +kernel
  have turned : hooked.Turns (hooked.clickedBy (.click 4)) after := .call (.click 4)
  rw [succeeds] at turned
  -- From here on no value is needed, and none should be computed.
  clear_value after hooked page
  have life : page.Life [4] after := (Life.begin.next (.hook hooks)).next turned
  have same : after.document = page.document := life.tallies.document
  obtain ⟨clicks, state, stays⟩ := checked_law unchecked fresh life
  have now : (after.reply (.isChecked 4)).1 = .ok false := by
    cases known : page.document.element? 4 with
    | none =>
        rw [known] at box
        cases box
    | some element =>
        have live : after.live 4 = .ok element := by simp [Snapshot.live, same, known, attached]
        have odd : decide (Odd (List.count 4 [4])) = true := by decide
        rw [known, Option.any_some, Bool.and_eq_true] at box
        rw [state 4 element live, box.1, box.2, odd]
        rfl
  refine ⟨hooks, unchecked, fresh, life, clicks, now, ?_⟩
  intro later turns lives
  obtain ⟨element, live⟩ := lives
  rw [stays [] later turns 4 element live List.not_mem_nil]
  exact now

end Snapshot

end ConsentBanner

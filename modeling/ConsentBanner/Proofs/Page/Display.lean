import ConsentBanner.Proofs.Page.Liveness

/-!
# What is displayed

Three calls tell whether an element is displayed: one for its height, one for whether it can be seen, and one for
its computed display.  They read the same things: what was shown or hidden by force, the `hidden` attributes and
the inline styles of the element and of those around it.

They agree (`Snapshot.display_agrees`) but for one case.  An element that is shown by force although its inline
style says `display: none` can be seen, but still has the computed display `none` (`Snapshot.display_disagrees`).
-/

set_option autoImplicit false

namespace ConsentBanner

theorem Keyed.get?_putAll (table : Keyed NodeId Bool) (nodes : List NodeId) (value : Bool) (node : NodeId) :
    (Snapshot.putAll table nodes value).get? node = if node ∈ nodes then some value else table.get? node := by
  induction nodes generalizing table with
  | nil => rfl
  | cons first rest ih =>
      rw [Snapshot.putAll, List.foldl_cons, ← Snapshot.putAll, ih]
      by_cases later : node ∈ rest
      · rw [if_pos later, if_pos (List.mem_cons_of_mem first later)]
      · rw [if_neg later]
        by_cases same : first = node
        · rw [if_pos (same ▸ List.mem_cons_self), same, Keyed.get?_put_self]
        · rw [if_neg (by simp [later, Ne.symm same]), Keyed.get?_put_of_ne _ _ same]

namespace Snapshot

open Markup

/-- An element is shown by force although its inline style says that it is not displayed. -/
def IsShownAgainstStyle (page : Snapshot) (node : NodeId) (element : Element) : Prop :=
  page.displayed.get? node = some true ∧ (styleOf element).get? "display" = some "none"

/-- What an effect lets an element be as far as it is concerned itself: shown or hidden if that is what the effect
does to it, and as before if not. -/
def displayedAfter (page : Snapshot) (node : NodeId) : Effect → Bool
  | .show selector => if node ∈ page.select selector then true else page.displaysItself node
  | .hide selector => if node ∈ page.select selector then false else page.displaysItself node
  | _ => page.displaysItself node

theorem displaysItself_apply (page : Snapshot) (effect : Effect) (node : NodeId) :
    (page.apply effect).displaysItself node = page.displayedAfter node effect := by
  cases effect with
  | «show» selector | hide selector =>
      rw [apply, displaysItself, Keyed.get?_putAll, displayedAfter]
      by_cases member : node ∈ page.select selector
      · simp only [if_pos member]
      · simp only [if_neg member]
        rfl
  | _ => rfl

variable {page : Snapshot} {node : NodeId} {element : Element}

theorem displaysItself_of_isRendered (ordered : page.document.IsOrdered)
    (known : (page.document.element? node).isSome = true) (rendered : page.isRendered node = true) :
    page.displaysItself node = true := by
  rw [isRendered, List.all_eq_true] at rendered
  exact rendered node ((ordered.mem_lineage known).mpr (.inl rfl))

theorem displaysItself_of_isVisible (ordered : page.document.IsOrdered)
    (known : (page.document.element? node).isSome = true) (visible : page.isVisible node element = true) :
    page.displaysItself node = true := by
  rw [isVisible] at visible
  split at visible
  next => exact visible
  next => exact displaysItself_of_isRendered ordered known visible

/-- What is displayed with all around it can be seen, fixed or not. -/
theorem isVisible_of_isRendered (ordered : page.document.IsOrdered)
    (known : (page.document.element? node).isSome = true) (rendered : page.isRendered node = true) :
    page.isVisible node element = true := by
  rw [isVisible]
  split
  next => exact displaysItself_of_isRendered ordered known rendered
  next => exact rendered

theorem computedStyle_display_eq_none (isElement : page.document.element? node = some element) :
    page.computedStyle node element "display" = some "none" ↔
      page.displaysItself node = false ∨ page.IsShownAgainstStyle node element := by
  rw [computedStyle, if_pos rfl]
  cases own : page.displaysItself node with
  | false => simp
  | true =>
      have declared : some (((styleOf element).get? "display").getD "block") = some "none" ↔
          (styleOf element).get? "display" = some "none" := by
        cases (styleOf element).get? "display" <;> simp
      rw [if_pos rfl, declared]
      constructor
      · intro none
        rw [displaysItself, isElement] at own
        split at own
        next forced isForced => exact .inr ⟨own ▸ isForced, none⟩
        next => simp [none] at own
      · rintro (never | against)
        · cases never
        · exact against.2

/-- What the three calls about the display of an element answer. -/
structure Displays (page : Snapshot) (node : NodeId) (height : Float) (visible : Bool) (display : Option String) :
    Prop where
  height : (page.reply (.offsetHeight node)).1 = .ok height
  visible : (page.reply (.isVisible node)).1 = .ok visible
  display : (page.reply (.computedStyle node "display")).1 = .ok display

theorem displays_iff (live : page.live node = .ok element) {height : Float} {visible : Bool}
    {display : Option String} : page.Displays node height visible display ↔
      (height = if page.isRendered node then ((styleOf element).pixels? "height").getD usualHeight else 0.0) ∧
        visible = page.isVisible node element ∧ display = page.computedStyle node element "display" := by
  constructor
  · rintro ⟨isHeight, isVisible, isDisplay⟩
    simp only [reply, live] at isHeight isVisible isDisplay
    exact ⟨(Except.ok.inj isHeight).symm, (Except.ok.inj isVisible).symm, (Except.ok.inj isDisplay).symm⟩
  · rintro ⟨rfl, rfl, rfl⟩
    exact ⟨by rw [reply, live]; rfl, by rw [reply, live]; rfl, by rw [reply, live]; rfl⟩

theorem element?_of_live (live : page.live node = .ok element) : page.document.element? node = some element := by
  rw [Snapshot.live] at live
  split at live
  next found isElement =>
    split at live
    next => exact Except.ok.inj live ▸ isElement
    next => cases live
  next => cases live

/-- On every page that has come of a text, the three calls about the display of a live element answer, and agree.
What has a height can be seen.  What can be seen is displayed as far as it is concerned itself.  The computed
display is `none` for what is not, and for nothing else but what is shown against its style; so nothing else that
can be seen has it.  Whether an element is displayed itself, the last effect that showed or hid it says. -/
theorem display_agrees {text : String} {start page : Snapshot} (read : start.document = .ofText text)
    (reached : start.Becomes page) {node : NodeId} (isLive : page.IsLive node) :
    ∃ element height visible display,
      page.document.element? node = some element ∧ page.Displays node height visible display ∧
      (height ≠ 0.0 → visible = true) ∧ (visible = true → page.displaysItself node = true) ∧
      (display = some "none" ↔ page.displaysItself node = false ∨ page.IsShownAgainstStyle node element) ∧
      (¬page.IsShownAgainstStyle node element → (visible = true → display ≠ some "none") ∧
        (display = some "none" ↔ page.displaysItself node = false)) ∧
      ∀ effect, (page.apply effect).displaysItself node = page.displayedAfter node effect := by
  have ordered : page.document.IsOrdered := by
    rw [reached.precedes.document, read]
    exact Document.isOrdered_ofText text
  obtain ⟨element, live⟩ := live_of_isLive ordered isLive
  have isElement := element?_of_live live
  have seen : page.isVisible node element = true → page.displaysItself node = true :=
    displaysItself_of_isVisible ordered isLive.known
  have none := computedStyle_display_eq_none isElement
  refine ⟨element, _, _, _, isElement, (displays_iff live).mpr ⟨rfl, rfl, rfl⟩, fun tall => ?_, seen, none,
    fun usual => ⟨fun visible isNone => ?_, none.trans (or_iff_left usual)⟩,
    fun effect => displaysItself_apply page effect node⟩
  · cases rendered : page.isRendered node with
    | true => exact isVisible_of_isRendered ordered isLive.known rendered
    | false => exact absurd (if_neg (by simp [rendered])) tall
  · exact (none.mp isNone).elim (fun off => by rw [seen visible] at off; cases off) usual

/-- A fixed note inside a box that is hidden has no height, but can be seen and has a computed display. -/
theorem display_agrees_fixed :
    let page := ofText "<div hidden><p style='position: fixed'>cookies</p></div>"
    page.IsLive 4 ∧ page.displaysItself 4 = true ∧ page.isRendered 4 = false ∧
      ∃ height visible display, page.Displays 4 height visible display ∧ (height ≠ 0.0 → visible = true) ∧
        display ≠ some "none" := by
  intro page
  have ordered : page.document.IsOrdered := Document.isOrdered_ofText _
  have isLive : page.IsLive 4 := (isAttached_iff ordered 4).mp (by decide +kernel)
  have itself : page.displaysItself 4 = true := by decide +kernel
  have usual : page.displayed.get? 4 = none := rfl
  obtain ⟨element, height, visible, display, -, answers, tall, -, -, none, -⟩ :=
    display_agrees (rfl : page.document = .ofText _) (.refl page) isLive
  refine ⟨isLive, itself, by decide +kernel, height, visible, display, answers, tall, fun isNone => ?_⟩
  have off := (none fun against => by cases usual.symm.trans against.1).2.mp isNone
  cases itself.symm.trans off

/-- A box whose style says `display: none` is shown: it can be seen, and its computed display is `none`. -/
theorem display_disagrees :
    let start := ofText "<div id=box style='display: none'>cookies</div>"
    let page := start.apply (.show "#box")
    start.Becomes page ∧ page.IsLive 3 ∧ page.displaysItself 3 = true ∧
      ∃ height, page.Displays 3 height true (some "none") := by
  intro start page
  have reached : start.Becomes page := .effect (.show "#box") (.refl page)
  have ordered : page.document.IsOrdered := by
    rw [reached.precedes.document]
    exact Document.isOrdered_ofText _
  have isLive : page.IsLive 3 := (isAttached_iff ordered 3).mp (by decide +kernel)
  obtain ⟨element, live⟩ := live_of_isLive ordered isLive
  have isElement := element?_of_live live
  have style : (page.document.element? 3).map (fun element => (styleOf element).get? "display") =
      some (some "none") := by decide +kernel
  have visible : (page.document.element? 3).map (page.isVisible 3) = some true := by decide +kernel
  have forced : page.displayed.get? 3 = some true := by decide +kernel
  have itself : page.displaysItself 3 = true := by decide +kernel
  -- From here on no value is needed, and none should be computed.
  clear_value page start
  rw [isElement] at style visible
  have none := (computedStyle_display_eq_none isElement).mpr (.inr ⟨forced, Option.some.inj style⟩)
  exact ⟨reached, isLive, itself, _, (displays_iff live).mpr ⟨rfl, (Option.some.inj visible).symm, none.symm⟩⟩

end Snapshot

end ConsentBanner

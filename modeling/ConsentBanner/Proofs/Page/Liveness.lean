import ConsentBanner.Proofs.Page.Order

/-!
# Elements that belong to a page

An element is live while neither it nor one that it stands inside was removed (`Snapshot.IsLive`).  Whatever became
of a page before, calls about its live elements succeed, and calls about others fail and leave the page as it is;
what was removed never comes back (`Snapshot.live_discipline`).
-/

set_option autoImplicit false

namespace ConsentBanner

/-- A call is about one element; a lookup inside it is about it if its selector can be read. -/
def PageCall.IsAbout (node : NodeId) : {α : Type} → PageCall α → Prop
  | _, .queryAll scope selector => scope = .node node ∧ (Selector.ofText? selector).isSome = true
  | _, .textContent other => other = node
  | _, .computedStyle other _ => other = node
  | _, .offsetHeight other => other = node
  | _, .isVisible other => other = node
  | _, .isChecked other => other = node
  | _, .click other => other = node
  | _, .addClass other _ => other = node
  | _, .boundingRect other => other = node
  | _, .dispatchMouse other _ _ _ => other = node
  | _, _ => False

namespace Snapshot

/-- An element is there, and neither it nor one that it stands inside was removed. -/
structure IsLive (page : Snapshot) (node : NodeId) : Prop where
  known : (page.document.element? node).isSome = true
  present : node ∉ page.removed
  around : ∀ outer, page.document.Below node outer → outer ∉ page.removed

theorem isAttached_iff {page : Snapshot} (ordered : page.document.IsOrdered) (node : NodeId) :
    page.isAttached node = true ↔ page.IsLive node := by
  rw [isAttached, Bool.and_eq_true, List.all_eq_true]
  constructor
  · rintro ⟨known, present⟩
    have present : ∀ other ∈ page.document.lineage node, other ∉ page.removed := by simpa using present
    exact ⟨known, present node ((ordered.mem_lineage known).mpr (.inl rfl)),
      fun outer below => present outer ((ordered.mem_lineage known).mpr (.inr below))⟩
  · rintro ⟨known, present, around⟩
    refine ⟨known, fun other member => ?_⟩
    rcases (ordered.mem_lineage known).mp member with rfl | below
    · simpa using present
    · simpa using around other below

theorem live_of_isLive {page : Snapshot} (ordered : page.document.IsOrdered) {node : NodeId}
    (isLive : page.IsLive node) : ∃ element, page.live node = .ok element := by
  obtain ⟨element, known⟩ := Option.isSome_iff_exists.mp isLive.known
  have attached := (isAttached_iff ordered node).mpr isLive
  exact ⟨element, by simp [live, known, attached]⟩

theorem live_of_not_isLive {page : Snapshot} (ordered : page.document.IsOrdered) {node : NodeId}
    (gone : ¬page.IsLive node) : page.live node = .error (.nodeGone node) := by
  have detached : page.isAttached node = false :=
    Bool.eq_false_iff.mpr fun attached => gone ((isAttached_iff ordered node).mp attached)
  rw [live]
  split
  · simp [detached]
  · rfl

theorem reply_of_live {page : Snapshot} {node : NodeId} {element : Markup.Element} (live : page.live node = .ok element)
    {α : Type} {call : PageCall α} (about : call.IsAbout node) : ∃ value, (page.reply call).1 = .ok value := by
  cases call with
  | queryAll scope selector =>
      obtain ⟨rfl, valid⟩ := about
      obtain ⟨known, read⟩ := Option.isSome_iff_exists.mp valid
      exact ⟨_, by simp only [reply, query, read, live]; rfl⟩
  | textContent | computedStyle | offsetHeight | isVisible | isChecked | boundingRect =>
      obtain rfl := about
      exact ⟨_, by rw [reply, live]; rfl⟩
  | click | addClass | dispatchMouse =>
      obtain rfl := about
      exact ⟨_, by rw [reply, live]⟩
  | _ => cases about

/-- A call about an element that does not belong to the page fails and leaves the page as it is. -/
theorem reply_of_gone {page : Snapshot} {node : NodeId} (gone : page.live node = .error (.nodeGone node))
    {α : Type} {call : PageCall α} (about : call.IsAbout node) :
    page.reply call = (.error (.nodeGone node), page) := by
  cases call with
  | queryAll scope selector =>
      obtain ⟨rfl, valid⟩ := about
      obtain ⟨known, read⟩ := Option.isSome_iff_exists.mp valid
      simp only [reply, query, read, gone]
      rfl
  | textContent | computedStyle | offsetHeight | isVisible | isChecked | boundingRect =>
      obtain rfl := about
      rw [reply, gone]
      rfl
  | click | addClass | dispatchMouse =>
      obtain rfl := about
      rw [reply, gone]
  | _ => cases about

/-- The page after a click on one of its elements and before anything that follows it. -/
def pressed (page : Snapshot) (node : NodeId) (element : Markup.Element) : Snapshot :=
  let page := page.record (.click node)
  if isSwitch element then { page with checked := page.checked.put node (!page.isChecked node element) } else page

theorem clicked_eq (page : Snapshot) (node : NodeId) (element : Markup.Element) :
    page.clicked node element =
      (page.pressed node element).applyAll ((page.pressed node element).clickEffects node) := rfl

/-- What can become of a page through calls, changes of its own and what is to follow clicks.  What follows a click
may itself be anything of this kind, so a click may also be followed by steps that were not fixed before. -/
inductive Becomes : Snapshot → Snapshot → Prop where
  | refl (page : Snapshot) : Becomes page page
  | call {page after : Snapshot} {α : Type} (call : PageCall α) (rest : Becomes (page.reply call).2 after) :
      Becomes page after
  | effect {page after : Snapshot} (effect : Effect) (rest : Becomes (page.apply effect) after) : Becomes page after
  | hook {page hooked after : Snapshot} {selector : String} {effects : List Effect}
      (hooks : page.onClick selector effects = .ok hooked) (rest : Becomes hooked after) : Becomes page after
  | press {page after : Snapshot} {node : NodeId} {element : Markup.Element} (live : page.live node = .ok element)
      (rest : Becomes (page.pressed node element) after) : Becomes page after

/-- A later page has the same document, and what was removed from it stays removed. -/
structure Precedes (page later : Snapshot) : Prop where
  document : later.document = page.document
  removed : page.removed ⊆ later.removed

namespace Precedes

variable {page later last : Snapshot}

theorem refl (page : Snapshot) : page.Precedes page := ⟨rfl, List.Subset.refl _⟩

theorem trans (first : page.Precedes later) (second : later.Precedes last) : page.Precedes last :=
  ⟨second.document.trans first.document, List.Subset.trans first.removed second.removed⟩

theorem isLive (precedes : page.Precedes later) {node : NodeId} (live : later.IsLive node) : page.IsLive node where
  known := precedes.document ▸ live.known
  present removed := live.present (precedes.removed removed)
  around outer below removed := live.around outer (precedes.document ▸ below) (precedes.removed removed)

end Precedes

theorem precedes_apply (page : Snapshot) (effect : Effect) : page.Precedes (page.apply effect) := by
  cases effect with
  | remove selector => exact ⟨rfl, List.subset_append_left _ _⟩
  | _ => exact ⟨rfl, List.Subset.refl _⟩

theorem precedes_applyAll (effects : List Effect) (page : Snapshot) : page.Precedes (page.applyAll effects) := by
  induction effects generalizing page with
  | nil => exact .refl page
  | cons effect rest ih => exact (page.precedes_apply effect).trans (ih _)

theorem precedes_pressed (page : Snapshot) (node : NodeId) (element : Markup.Element) :
    page.Precedes (page.pressed node element) := by
  rw [pressed]
  split <;> exact ⟨rfl, List.Subset.refl _⟩

theorem precedes_clicked (page : Snapshot) (node : NodeId) (element : Markup.Element) :
    page.Precedes (page.clicked node element) := by
  rw [clicked_eq]
  exact (page.precedes_pressed node element).trans (precedes_applyAll _ _)

theorem precedes_reply (page : Snapshot) {α : Type} (call : PageCall α) : page.Precedes (page.reply call).2 := by
  rcases page.reply_changes call with ⟨node, element, clicks⟩ | ⟨_, _, _, only⟩
  · rw [clicks]
    exact page.precedes_clicked node element
  · rw [only]
    exact ⟨rfl, List.Subset.refl _⟩

theorem precedes_onClick {page hooked : Snapshot} {selector : String} {effects : List Effect}
    (hooks : page.onClick selector effects = .ok hooked) : page.Precedes hooked := by
  rw [onClick] at hooks
  split at hooks
  · cases hooks
    exact ⟨rfl, List.Subset.refl _⟩
  · cases hooks

theorem Becomes.precedes {page later : Snapshot} (becomes : page.Becomes later) : page.Precedes later := by
  induction becomes with
  | refl page => exact .refl page
  | call call _ ih => exact (precedes_reply _ call).trans ih
  | effect effect _ ih => exact (precedes_apply _ effect).trans ih
  | hook hooks _ ih => exact (precedes_onClick hooks).trans ih
  | press live _ ih => exact (precedes_pressed _ _ _).trans ih

/-- A removal takes away the elements that its selector describes, with all that stands inside them. -/
theorem isLive_remove (page : Snapshot) (selector : String) (node : NodeId) :
    (page.apply (.remove selector)).IsLive node ↔ page.IsLive node ∧ node ∉ page.select selector ∧
      ∀ outer, page.document.Below node outer → outer ∉ page.select selector := by
  constructor
  · intro live
    refine ⟨(page.precedes_apply _).isLive live, fun member => ?_, fun outer below member => ?_⟩
    · exact live.present (List.mem_append_right _ member)
    · exact live.around outer below (List.mem_append_right _ member)
  · rintro ⟨live, present, around⟩
    refine ⟨live.known, fun removed => ?_, fun outer below removed => ?_⟩
    · exact (List.mem_append.mp removed).elim live.present present
    · exact (List.mem_append.mp removed).elim (live.around outer below) (around outer below)

/-- On every page that has come of a text: a call about an element succeeds if the element is live; if not, it fails
for that reason, and the page remains as it is with all that was recorded.  What a call finds is live and, if it
looked inside an element, stands inside it.  A removal ends the lives of what it describes and of all inside that;
no life begins anew, and what stands around a live element is live. -/
theorem live_discipline {text : String} {start page : Snapshot} (read : start.document = .ofText text)
    (reached : start.Becomes page) :
    (∀ {α : Type} (call : PageCall α) (node : NodeId), call.IsAbout node →
      (page.IsLive node → ∃ value, (page.reply call).1 = .ok value) ∧
        (¬page.IsLive node → page.reply call = (.error (.nodeGone node), page))) ∧
      (∀ scope selector nodes, (page.reply (.queryAll scope selector)).1 = .ok nodes → ∀ node ∈ nodes,
        page.IsLive node ∧ ∀ outer, scope = .node outer → page.document.Below node outer ∧ node ≠ outer) ∧
      (∀ selector node, (page.apply (.remove selector)).IsLive node ↔
        page.IsLive node ∧ node ∉ page.select selector ∧
          ∀ outer, page.document.Below node outer → outer ∉ page.select selector) ∧
      (∀ later, page.Becomes later → ∀ node, ¬page.IsLive node → ¬later.IsLive node) ∧
      ∀ node outer, page.IsLive node → page.document.Below node outer → page.IsLive outer := by
  have ordered : page.document.IsOrdered := by
    rw [reached.precedes.document, read]
    exact Markup.Document.isOrdered_ofText text
  refine ⟨fun call node about => ⟨fun isLive => ?_, fun gone => ?_⟩,
    fun scope selector nodes found node member => ?_, page.isLive_remove,
    fun later becomes node gone live => ?_, fun node outer live below => ?_⟩
  · obtain ⟨element, live⟩ := live_of_isLive ordered isLive
    exact reply_of_live live about
  · exact reply_of_gone (live_of_not_isLive ordered gone) about
  · refine ⟨(isAttached_iff ordered node).mp (query_attached found node member), fun outer inside => ?_⟩
    subst inside
    have below := (query_node found node member).1
    exact ⟨below, Nat.ne_of_gt (ordered.lt below)⟩
  · exact gone (becomes.precedes.isLive live)
  · exact ⟨ordered.isSome_of_below below, live.around outer below, fun further above =>
      live.around further (below.trans above)⟩

/-- A click on a button takes away the box around it, so that the button cannot be clicked again. -/
theorem live_discipline_box :
    let page := { ofText "<div id=box><button>Reject</button></div>" with topFrame := false }
    let hooked := { page with hooks := [(⟨[.last [.name "button"]]⟩, [.remove "#box"])] }
    let clicked := (hooked.reply (.click 4)).2
    page.onClick "button" [.remove "#box"] = .ok hooked ∧ page.Becomes clicked ∧
      (∃ nothing, (hooked.reply (.click 4)).1 = .ok nothing) ∧ ¬clicked.IsLive 4 ∧
      clicked.reply (.click 4) = (.error (.nodeGone 4), clicked) ∧
      ∀ later, clicked.Becomes later → ¬later.IsLive 4 := by
  intro page hooked clicked
  have hooks : page.onClick "button" [.remove "#box"] = .ok hooked := by
    have known : Selector.ofText? "button" = some ⟨[.last [.name "button"]]⟩ := rfl
    rw [onClick, known]
    rfl
  have before : page.Becomes hooked := .hook hooks (.refl hooked)
  have after : page.Becomes clicked := .hook hooks (.call (.click 4) (.refl clicked))
  have read : page.document = .ofText "<div id=box><button>Reject</button></div>" := rfl
  have ordered : page.document.IsOrdered := by
    rw [read]
    exact Markup.Document.isOrdered_ofText _
  have attached : hooked.isAttached 4 = true := by decide +kernel
  have detached : clicked.isAttached 4 = false := by decide +kernel
  have live : hooked.IsLive 4 := by
    rw [← isAttached_iff, attached]
    rw [before.precedes.document]
    exact ordered
  have gone : ¬clicked.IsLive 4 := by
    rw [← isAttached_iff, detached]
    · nofun
    · rw [after.precedes.document]
      exact ordered
  obtain ⟨first, -⟩ := live_discipline read before
  obtain ⟨second, -, -, ever, -⟩ := live_discipline read after
  have clicks := (first (.click 4) 4 rfl).1 live
  have fails := (second (.click 4) 4 rfl).2 gone
  -- From here on no value is needed, and none should be computed.
  clear_value clicked hooked page
  exact ⟨hooks, after, clicks, gone, fails, fun later becomes => ever later becomes 4 gone⟩

end Snapshot

end ConsentBanner

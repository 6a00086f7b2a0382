import ConsentBanner.Page.Snapshot
import ConsentBanner.Timing

/-!
# Pages that stand still

A page on which nothing follows a click and no call fails looks the same whatever steps do to it: they check
boxes, add style and leave clicks in the log.
-/

set_option autoImplicit false

namespace ConsentBanner

/-- Calls that steps make of their own accord. -/
def PageCall.IsPlain : {α : Type} → PageCall α → Prop
  | _, .queryAll _ _ => True
  | _, .isVisible _ => True
  | _, .click _ => True
  | _, .appendStyle _ _ => True
  | _, _ => False

/-- A page looks like another one in all that plain calls and page script depend on. -/
structure Snapshot.Looks (page other : Snapshot) : Prop where
  document : other.document = page.document
  removed : other.removed = page.removed
  displayed : other.displayed = page.displayed
  scripts : other.scripts = page.scripts
  hooks : other.hooks = page.hooks
  failing : other.failing = page.failing

namespace Snapshot

theorem Looks.refl (page : Snapshot) : page.Looks page := ⟨rfl, rfl, rfl, rfl, rfl, rfl⟩

theorem Looks.trans {page other last : Snapshot} (first : page.Looks other) (second : other.Looks last) :
    page.Looks last :=
  ⟨second.document.trans first.document, second.removed.trans first.removed,
    second.displayed.trans first.displayed, second.scripts.trans first.scripts,
    second.hooks.trans first.hooks, second.failing.trans first.failing⟩

theorem clicks_record (page : Snapshot) (node : NodeId) :
    (page.record (.click node)).clicks = page.clicks ++ [node] := by
  rw [clicks, record, List.filterMap_append]
  rfl

/-- A click that nothing follows leaves its entry in the log and may check a box. -/
theorem clicked_still {page : Snapshot} (hooks : page.hooks = []) (node : NodeId) (element : Markup.Element) :
    page.Looks (page.clicked node element) ∧
      (page.clicked node element).clicks = page.clicks ++ [node] := by
  have settled : ∀ other : Snapshot, page.Looks other → other.clicks = page.clicks ++ [node] →
      page.Looks (other.applyAll (other.clickEffects node)) ∧
        (other.applyAll (other.clickEffects node)).clicks = page.clicks ++ [node] := by
    intro other looks clicked
    have nothing : other.clickEffects node = [] := by
      rw [clickEffects, looks.hooks, hooks]
      rfl
    rw [nothing]
    exact ⟨looks, clicked⟩
  unfold clicked
  refine settled _ ?_ ?_
  · split
    · exact ⟨rfl, rfl, rfl, rfl, rfl, rfl⟩
    · exact ⟨rfl, rfl, rfl, rfl, rfl, rfl⟩
  · have recorded := clicks_record page node
    split
    · exact recorded
    · exact recorded

end Snapshot

/-- A page that stands still, and what is to be expected of time and the host. -/
structure Scene where
  page : Snapshot
  timings : Timings
  /-- What page script is answered with, at once.  All other code is never answered. -/
  answer? : String → Option Json
  hooks : page.hooks = []
  failing : page.failing = []

namespace Scene

def clicked (scene : Scene) : {α : Type} → PageCall α → List NodeId
  | _, .click node =>
    match scene.page.live node with
    | .ok _ => [node]
    | .error _ => []
  | _, _ => []

variable (scene : Scene)

theorem live_looks {page : Snapshot} (looks : scene.page.Looks page) (node : NodeId) :
    page.live node = scene.page.live node := by
  simp only [Snapshot.live, Snapshot.isAttached, looks.document, looks.removed]
  rfl

theorem perform_eq {α : Type} (call : PageCall α) : scene.page.perform call = scene.page.reply call := by
  rw [Snapshot.perform, scene.failing]
  rfl

/-- A plain call is replied to as on the page of the scene, which looks the same afterwards. -/
theorem perform_plain {page : Snapshot} (looks : scene.page.Looks page) {α : Type} {call : PageCall α}
    (plain : call.IsPlain) :
    (page.perform call).1 = (scene.page.perform call).1 ∧ scene.page.Looks (page.perform call).2 ∧
      (page.perform call).2.clicks = page.clicks ++ scene.clicked call := by
  have works : page.perform call = page.reply call := by
    rw [Snapshot.perform, looks.failing, scene.failing]
    rfl
  rw [works, perform_eq]
  cases call with
  | queryAll scope selector =>
      refine ⟨?_, looks, (List.append_nil _).symm⟩
      obtain ⟨document, url, topFrame, ready, cookie, checked, classes, removed, displayed, styles, scripts,
        hooks, events, failing⟩ := page
      obtain ⟨rfl, rfl, rfl, rfl, rfl, rfl⟩ := looks
      rfl
  | isVisible node =>
      refine ⟨?_, looks, (List.append_nil _).symm⟩
      obtain ⟨document, url, topFrame, ready, cookie, checked, classes, removed, displayed, styles, scripts,
        hooks, events, failing⟩ := page
      obtain ⟨rfl, rfl, rfl, rfl, rfl, rfl⟩ := looks
      rfl
  | click node =>
      have still : page.hooks = [] := looks.hooks.trans scene.hooks
      simp only [Snapshot.reply, clicked, scene.live_looks looks]
      cases scene.page.live node with
      | ok element =>
          obtain ⟨after, clicks⟩ := Snapshot.clicked_still still node element
          exact ⟨rfl, looks.trans after, clicks⟩
      | error error => exact ⟨rfl, looks, (List.append_nil _).symm⟩
  | appendStyle id css =>
      exact ⟨rfl, looks.trans ⟨rfl, rfl, rfl, rfl, rfl, rfl⟩, (List.append_nil _).symm⟩
  | _ => cases plain

end Scene

end ConsentBanner

import ConsentBanner.Page.Hiding
import ConsentBanner.Page.Snapshot

/-!
# Style elements

The text of a style element changes with the calls that add rules to it or remove it, and with nothing else that
happens to a page (`Snapshot.styleText?_perform`).
-/

set_option autoImplicit false

namespace ConsentBanner

namespace PageCall

def AddsNoneTo (style : String) : {α : Type} → PageCall α → Prop
  | _, .appendStyle other _ => other ≠ style
  | _, _ => True

def RemovesNot (style : String) : {α : Type} → PageCall α → Prop
  | _, .removeStyle other => other ≠ style
  | _, _ => True

/-- A call leaves a style element alone. -/
def Spares (style : String) : {α : Type} → PageCall α → Prop
  | _, .appendStyle other _ => other ≠ style
  | _, .removeStyle other => other ≠ style
  | _, _ => True

def restyle (style : String) (text : Option String) : {α : Type} → PageCall α → Except PageError α → Option String
  | _, .appendStyle other css, .ok _ => if other = style then some (text.getD "" ++ css) else text
  | _, .removeStyle other, .ok _ => if other = style then none else text
  | _, _, _ => text

variable {α : Type} {style : String} {call : PageCall α}

theorem Spares.addsNoneTo (spares : call.Spares style) : call.AddsNoneTo style := by
  cases call with
  | appendStyle other css => exact spares
  | _ => trivial

theorem Spares.removesNot (spares : call.Spares style) : call.RemovesNot style := by
  cases call with
  | removeStyle other => exact spares
  | _ => trivial

theorem restyle_of_spares (spares : call.Spares style) (text : Option String) (reply : Except PageError α) :
    call.restyle style text reply = text := by
  cases call with
  | appendStyle other css => cases reply <;> simp [restyle, show other ≠ style from spares]
  | removeStyle other => cases reply <;> simp [restyle, show other ≠ style from spares]
  | _ => rfl

/-- What does not exist is not created by a call that adds nothing to it. -/
theorem restyle_none (adds : call.AddsNoneTo style) (reply : Except PageError α) :
    call.restyle style none reply = none := by
  cases call with
  | appendStyle other css => cases reply <;> simp [restyle, show other ≠ style from adds]
  | removeStyle other => cases reply <;> simp [restyle]
  | _ => rfl

/-- What exists goes on to exist after a call that does not remove it. -/
theorem isSome_restyle (removes : call.RemovesNot style) {text : Option String} (present : text.isSome = true)
    (reply : Except PageError α) : (call.restyle style text reply).isSome = true := by
  cases call with
  | appendStyle other css =>
      cases reply with
      | ok value => by_cases same : other = style <;> simp [restyle, same, present]
      | error error => exact present
  | removeStyle other => cases reply <;> simp [restyle, show other ≠ style from removes, present]
  | _ => exact present

end PageCall

def Effect.LetsStyles : Effect → Prop
  | .fail calls => calls.contains "append_style" = false ∧ calls.contains "remove_style" = false
  | _ => True

namespace Snapshot

/-- Calls that add rules to style elements or remove them do not fail. -/
structure TakesStyles (page : Snapshot) : Prop where
  adds : page.failing.contains "append_style" = false
  removes : page.failing.contains "remove_style" = false

theorem styles_apply (page : Snapshot) (effect : Effect) : (page.apply effect).styles = page.styles := by
  cases effect <;> rfl

theorem styles_applyAll (effects : List Effect) (page : Snapshot) :
    (page.applyAll effects).styles = page.styles := by
  induction effects generalizing page with
  | nil => rfl
  | cons effect rest ih => exact (ih _).trans (page.styles_apply effect)

theorem styles_clicked (page : Snapshot) (node : NodeId) (element : Markup.Element) :
    (page.clicked node element).styles = page.styles := by
  rw [clicked, styles_applyAll]
  split <;> rfl

theorem styleText?_put (page : Snapshot) (style other text : String) :
    { page with styles := page.styles.put other text }.styleText? style =
      if other = style then some text else page.styleText? style := by
  split
  next same => exact same ▸ page.styles.get?_put_self other text
  next apart => exact page.styles.get?_put_of_ne text apart

theorem styleText?_erase (page : Snapshot) (style other : String) :
    { page with styles := page.styles.erase other }.styleText? style =
      if other = style then none else page.styleText? style := by
  split
  next same => exact same ▸ page.styles.get?_erase_self other
  next apart => exact page.styles.get?_erase_of_ne apart

theorem styleText?_perform (page : Snapshot) (style : String) {α : Type} (call : PageCall α) :
    (page.perform call).2.styleText? style = call.restyle style (page.styleText? style) (page.perform call).1 := by
  rw [perform]
  split
  · cases call <;> rfl
  · cases call with
    | appendStyle other css =>
        refine (page.styleText?_put style other _).trans ?_
        by_cases same : other = style
        · subst same
          simp only [reply, PageCall.restyle, if_true, styleText?]
        · simp only [reply, PageCall.restyle, if_neg same]
    | removeStyle other => exact page.styleText?_erase style other
    | click node =>
        rw [reply]
        cases page.live node with
        | ok element => exact congrArg (·.get? style) (page.styles_clicked node element)
        | error error => rfl
    | addClass node name => rw [reply]; cases page.live node <;> rfl
    | dispatchMouse node kind x y => rw [reply]; cases page.live node <;> rfl
    | evaluate code =>
        rw [reply]
        cases (page.record (.evaluate code)).scripts.get? code <;> rfl
    | _ => rfl

theorem perform_appendStyle {page : Snapshot} (takes : page.TakesStyles) (style css : String) :
    (page.perform (.appendStyle style css)).1 = .ok () := by
  rw [perform, if_neg (by simp only [PageCall.name, takes.adds]; nofun), reply]

theorem perform_removeStyle {page : Snapshot} (takes : page.TakesStyles) (style : String) :
    (page.perform (.removeStyle style)).1 = .ok (page.styles.has style) := by
  rw [perform, if_neg (by simp only [PageCall.name, takes.removes]; nofun), reply]

/-- Calls that add rules to style elements or remove them do not fail, and no click makes them fail. -/
structure AlwaysTakesStyles (page : Snapshot) : Prop where
  takes : page.TakesStyles
  hooks : ∀ hook ∈ page.hooks, ∀ effect ∈ hook.2, effect.LetsStyles

theorem takesStyles_congr {page other : Snapshot} (failing : other.failing = page.failing)
    (takes : page.TakesStyles) : other.TakesStyles :=
  ⟨failing ▸ takes.adds, failing ▸ takes.removes⟩

theorem takesStyles_apply {page : Snapshot} (takes : page.TakesStyles) {effect : Effect}
    (lets : effect.LetsStyles) : (page.apply effect).TakesStyles := by
  obtain ⟨adds, removes⟩ := takes
  cases effect with
  | fail calls =>
      obtain ⟨letsAdd, letsRemove⟩ := lets
      refine ⟨?_, ?_⟩
      · rw [apply, List.contains_append, adds, letsAdd, Bool.or_false]
      · rw [apply, List.contains_append, removes, letsRemove, Bool.or_false]
  | heal calls =>
      have fewer : ∀ name, page.failing.contains name = false →
          (page.apply (.heal calls)).failing.contains name = false := by
        intro name absent
        rw [List.contains_eq_mem, decide_eq_false_iff_not] at absent ⊢
        exact fun member => absent (List.mem_filter.mp member).1
      exact ⟨fewer _ adds, fewer _ removes⟩
  | _ => exact ⟨adds, removes⟩

theorem takesStyles_applyAll {effects : List Effect} (lets : ∀ effect ∈ effects, effect.LetsStyles)
    {page : Snapshot} (takes : page.TakesStyles) : (page.applyAll effects).TakesStyles := by
  induction effects generalizing page with
  | nil => exact takes
  | cons effect rest ih =>
      refine ih (fun other member => lets other (List.mem_cons_of_mem effect member)) ?_
      exact takesStyles_apply takes (lets effect List.mem_cons_self)

theorem hooks_applyAll (effects : List Effect) (page : Snapshot) : (page.applyAll effects).hooks = page.hooks := by
  induction effects generalizing page with
  | nil => rfl
  | cons effect rest ih => exact (ih _).trans (by cases effect <;> rfl)

theorem AlwaysTakesStyles.clicked {page : Snapshot} (always : page.AlwaysTakesStyles) (node : NodeId)
    (element : Markup.Element) : (page.clicked node element).AlwaysTakesStyles := by
  rw [Snapshot.clicked]
  generalize noted : (if isSwitch element then _ else page.record (.click node) : Snapshot) = now
  have hooks : now.hooks = page.hooks := by subst noted; split <;> rfl
  have failing : now.failing = page.failing := by subst noted; split <;> rfl
  have lets : ∀ effect ∈ now.clickEffects node, effect.LetsStyles := by
    intro effect member
    obtain ⟨hook, within, own⟩ := List.mem_flatMap.mp member
    exact always.hooks hook (hooks ▸ (List.mem_filter.mp within).1) effect own
  refine ⟨takesStyles_applyAll lets (takesStyles_congr failing always.takes), ?_⟩
  rw [hooks_applyAll, hooks]
  exact always.hooks

theorem AlwaysTakesStyles.perform {page : Snapshot} (always : page.AlwaysTakesStyles) {α : Type}
    (call : PageCall α) : (page.perform call).2.AlwaysTakesStyles := by
  rw [Snapshot.perform]
  split
  · exact always
  · rcases page.reply_changes call with ⟨node, element, clicks⟩ | ⟨_, _, _, only⟩
    · rw [clicks]
      exact always.clicked node element
    · rw [only]
      exact ⟨@takesStyles_congr page _ rfl always.takes, always.hooks⟩

end Snapshot

end ConsentBanner

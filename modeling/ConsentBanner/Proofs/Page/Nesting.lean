import ConsentBanner.Page.Snapshot
import Mathlib.Logic.Relation

/-!
# What stands inside what

A snapshot finds elements inside another one only if they stand inside it and belong to the page at that time
(`Snapshot.query_node`).  Whatever happens to a snapshot, what stands inside what stays as it is
(`Snapshot.Leads.document`).
-/

set_option autoImplicit false

namespace ConsentBanner

namespace Markup.Document

/-- An element stands right inside another one. -/
def IsChild (document : Document) (inner outer : Nat) : Prop :=
  ∃ element, document.element? inner = some element ∧ element.parent = some outer

/-- An element stands inside another one, at whatever depth. -/
def Below (document : Document) : Nat → Nat → Prop := Relation.TransGen document.IsChild

/-- Around an element stands the one right around it, and what stands around that. -/
theorem exists_isChild {document : Document} {fuel place outer : Nat}
    (around : outer ∈ (document.lineageWith (fuel + 1) place).drop 1) :
    ∃ parent, document.IsChild place parent ∧ outer ∈ document.lineageWith fuel parent := by
  rw [lineageWith] at around
  cases isElement : document.element? place with
  | none => simp [isElement] at around
  | some element =>
      cases isParent : element.parent with
      | none => simp [isElement, isParent] at around
      | some parent =>
          simp only [isElement, isParent, List.drop_succ_cons, List.drop_zero] at around
          exact ⟨parent, ⟨element, isElement, isParent⟩, around⟩

theorem eq_or_below {document : Document} {outer : Nat} (fuel : Nat) : ∀ place,
    outer ∈ document.lineageWith fuel place → outer = place ∨ document.Below place outer := by
  induction fuel with
  | zero => exact fun _ => nofun
  | succ fuel ih =>
      intro place member
      rw [← List.take_append_drop 1 (document.lineageWith (fuel + 1) place)] at member
      rcases List.mem_append.mp member with first | around
      · rw [lineageWith] at first
        split at first
        · cases first
        · exact .inl (List.mem_singleton.mp first)
      · obtain ⟨parent, child, above⟩ := exists_isChild around
        rcases ih parent above with rfl | below
        · exact .inr (.single child)
        · exact .inr (below.head child)

theorem below_of_isInside {document : Document} {place outer : Nat} (inside : document.isInside place outer = true) :
    document.Below place outer := by
  have around : outer ∈ (document.lineage place).drop 1 := List.contains_iff_mem.mp inside
  rw [lineage] at around
  cases size : document.elements.size with
  | zero => simp [size, lineageWith] at around
  | succ fuel =>
      obtain ⟨parent, child, above⟩ := exists_isChild (size ▸ around)
      rcases eq_or_below fuel parent above with rfl | below
      · exact .single child
      · exact below.head child

end Markup.Document

namespace Snapshot

theorem query_node {page : Snapshot} {outer : NodeId} {selector : String} {nodes : List NodeId}
    (found : page.query (.node outer) selector = .ok nodes) :
    ∀ node ∈ nodes, page.document.Below node outer ∧ page.isAttached node = true := by
  rw [query] at found
  cases read : Selector.ofText? selector with
  | none => simp [read] at found
  | some known =>
      cases live : page.live outer with
      | error error => simp [read, live, bind, Except.bind] at found
      | ok element =>
          simp only [read, live, bind, Except.bind, pure, Except.pure, Except.ok.injEq] at found
          subst found
          intro node member
          obtain ⟨described, attached⟩ := List.mem_filter.mp member
          obtain ⟨-, accepted⟩ := List.mem_filter.mp described
          exact ⟨Markup.Document.below_of_isInside (Bool.and_eq_true_iff.mp accepted).1, attached⟩

/-- Whatever a call finds belongs to the page. -/
theorem query_attached {page : Snapshot} {scope : Scope} {selector : String} {nodes : List NodeId}
    (found : page.query scope selector = .ok nodes) : ∀ node ∈ nodes, page.isAttached node = true := by
  cases scope with
  | node outer => exact fun node member => (query_node found node member).2
  | document =>
      rw [query] at found
      cases read : Selector.ofText? selector with
      | none => simp [read] at found
      | some known =>
          simp only [read, Except.ok.injEq] at found
          subst found
          exact fun node member => (List.mem_filter.mp member).2

/-- What a call for a selector finds is what the selector describes. -/
theorem mem_select_of_perform {page : Snapshot} {selector : String} {nodes : List NodeId}
    (found : .ok nodes = (page.perform (.queryAll .document selector)).1) :
    ∀ node ∈ nodes, node ∈ page.select selector := by
  unfold perform at found
  split at found
  · cases found
  · change .ok nodes = page.query .document selector at found
    unfold query at found
    unfold select
    cases read : Selector.ofText? selector with
    | none => simp [read] at found
    | some known =>
        simp only [read, Except.ok.injEq] at found
        subst found
        exact fun node member => (List.mem_filter.mp member).1

theorem isAttached_of_click {page : Snapshot} {node : NodeId} (clicked : .ok () = (page.perform (.click node)).1) :
    page.isAttached node = true := by
  unfold perform at clicked
  split at clicked
  · cases clicked
  · by_cases attached : page.isAttached node = true
    · exact attached
    · have gone : page.live node = .error (.nodeGone node) := by
        unfold live
        split <;> simp [attached]
      simp [reply, gone] at clicked

theorem gone_of_click {page : Snapshot} {node : NodeId} {error : PageError}
    (failed : .error error = (page.perform (.click node)).1) :
    page.isAttached node = false ∨ page.failing.contains "click" = true := by
  unfold perform at failed
  split at failed
  next fails => exact .inr fails
  next =>
    refine .inl (Bool.eq_false_iff.mpr fun attached => ?_)
    obtain ⟨element, isElement⟩ := Option.isSome_iff_exists.mp (Bool.and_eq_true_iff.mp attached).1
    have live : page.live node = .ok element := by simp [live, isElement, attached]
    simp [reply, live] at failed

/-- What can become of a page: changes of its own, and calls of anybody, one after the other. -/
inductive Leads : Snapshot → Snapshot → Prop where
  | refl (page : Snapshot) : Leads page page
  | effect {page after : Snapshot} (effect : Effect) (rest : Leads (page.apply effect) after) : Leads page after
  | call {page after : Snapshot} {α : Type} (call : PageCall α) (rest : Leads (page.perform call).2 after) :
      Leads page after

theorem document_apply (page : Snapshot) (effect : Effect) : (page.apply effect).document = page.document := by
  cases effect <;> rfl

theorem document_applyAll (effects : List Effect) (page : Snapshot) :
    (page.applyAll effects).document = page.document := by
  induction effects generalizing page with
  | nil => rfl
  | cons effect rest ih => exact (ih _).trans (page.document_apply effect)

theorem document_clicked (page : Snapshot) (node : NodeId) (element : Markup.Element) :
    (page.clicked node element).document = page.document := by
  rw [clicked, document_applyAll]
  split <;> rfl

theorem document_perform (page : Snapshot) {α : Type} (call : PageCall α) :
    (page.perform call).2.document = page.document := by
  rw [perform]
  split
  · rfl
  · rcases page.reply_changes call with ⟨node, element, clicks⟩ | ⟨_, _, _, only⟩
    · rw [clicks, document_clicked]
    · rw [only]

theorem Leads.document {page after : Snapshot} (leads : page.Leads after) : after.document = page.document := by
  induction leads with
  | refl => rfl
  | effect effect _ ih => exact ih.trans (document_apply _ effect)
  | call call _ ih => exact ih.trans (document_perform _ call)

end Snapshot

end ConsentBanner

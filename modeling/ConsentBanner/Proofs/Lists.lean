import Mathlib.Tactic.Tauto

/-!
# Lists that grow

`Throughout` says what holds of every member of a list, given those before it, and is kept up as the list
grows.  `Swells` says that a list has grown by some members of one kind, anywhere in it.
-/

set_option autoImplicit false

namespace ConsentBanner

theorem mem_insert {α : Type*} {one other : α} {before after : List α}
    (member : other ∈ before ++ one :: after) : other = one ∨ other ∈ before ++ after := by
  simp only [List.mem_append, List.mem_cons] at member ⊢
  tauto

theorem subset_insert {α : Type*} (one : α) (before after : List α) :
    before ++ after ⊆ before ++ one :: after :=
  ((List.sublist_cons_self one after).append_left before).subset

theorem mem_replace {α : Type*} (one : α) {other moved : α} {before after : List α}
    (member : other ∈ before ++ moved :: after) : other = moved ∨ other ∈ before ++ one :: after :=
  (mem_insert member).imp_right fun apart => subset_insert one before after apart

/-- Every member of a list has a property, given those before it. -/
def Throughout {α : Type} (holds : List α → α → Prop) (list : List α) : Prop :=
  ∀ before member after, list = before ++ member :: after → holds before member

namespace Throughout

variable {α : Type} {holds : List α → α → Prop}

theorem nil : Throughout holds [] := by
  intro before member after split
  simp at split

theorem append {list more : List α} (old : Throughout holds list)
    (new : ∀ before member after, more = before ++ member :: after → holds (list ++ before) member) :
    Throughout holds (list ++ more) := by
  intro before member after split
  rcases List.append_eq_append_iff.mp split with ⟨between, rfl, within⟩ | ⟨between, rfl, within⟩
  · exact new between member after within
  · cases between with
    | nil => exact (by simpa using new [] member after within.symm)
    | cons head rest =>
        obtain ⟨rfl, -⟩ := List.cons.inj within
        exact old before member rest rfl

theorem snoc {list : List α} {last : α} (old : Throughout holds list) (new : holds list last) :
    Throughout holds (list ++ [last]) := by
  refine old.append fun before member after split => ?_
  cases before with
  | nil =>
      obtain ⟨rfl, -⟩ := List.cons.inj split
      exact (List.append_nil list).symm ▸ new
  | cons head rest => simp at split

theorem of_snoc {list : List α} {last : α} (all : Throughout holds (list ++ [last])) :
    Throughout holds list ∧ holds list last := by
  refine ⟨fun before member after split => ?_, all list last [] rfl⟩
  refine all before member (after ++ [last]) ?_
  rw [split, List.append_assoc, List.cons_append]

end Throughout

/-- A list has grown by some members of a kind. -/
inductive Swells {α : Type} (kind : α → Prop) : List α → List α → Prop where
  | nil : Swells kind [] []
  | keep {lead whole : List α} (one : α) (swells : Swells kind lead whole) :
      Swells kind (one :: lead) (one :: whole)
  | more {lead whole : List α} {one : α} (is : kind one) (swells : Swells kind lead whole) :
      Swells kind lead (one :: whole)

namespace Swells

variable {α : Type} {kind : α → Prop} {lead whole : List α}

theorem refl (list : List α) : Swells kind list list := by
  induction list with
  | nil => exact .nil
  | cons one rest ih => exact .keep one ih

theorem append {other more : List α} (first : Swells kind lead whole) (second : Swells kind other more) :
    Swells kind (lead ++ other) (whole ++ more) := by
  induction first with
  | nil => exact second
  | keep one _ ih => exact .keep one ih
  | more is _ ih => exact .more is ih

/-- Members of the kind come first. -/
theorem after {front : List α} (each : ∀ one ∈ front, kind one) (swells : Swells kind lead whole) :
    Swells kind lead (front ++ whole) := by
  induction front with
  | nil => exact swells
  | cons one rest ih =>
      obtain ⟨first, others⟩ := List.forall_mem_cons.mp each
      exact .more first (ih others)

/-- Members of the kind come last. -/
theorem before {back : List α} (each : ∀ one ∈ back, kind one) (list : List α) : Swells kind list (list ++ back) := by
  have grown := (refl list).append (nil.after each)
  rwa [List.append_nil, List.append_nil] at grown

theorem sublist (swells : Swells kind lead whole) : lead.Sublist whole := by
  induction swells with
  | nil => exact .slnil
  | keep one _ ih => exact ih.cons_cons one
  | more _ _ ih => exact ih.cons _

theorem mem {one : α} (swells : Swells kind lead whole) (member : one ∈ whole) : one ∈ lead ∨ kind one := by
  induction swells with
  | nil => cases member
  | keep other _ ih =>
      rcases List.mem_cons.mp member with rfl | rest
      · exact .inl List.mem_cons_self
      · exact (ih rest).imp_left (List.mem_cons_of_mem other)
  | more is _ ih =>
      rcases List.mem_cons.mp member with rfl | rest
      · exact .inr is
      · exact ih rest

theorem eq_of_none (swells : Swells (fun _ => False) lead whole) : whole = lead := by
  induction swells with
  | nil => rfl
  | keep one _ ih => rw [ih]
  | more is _ _ => cases is

/-- Where members of the kind do not count, nothing was added. -/
theorem filterMap_eq {β : Type} {f : α → Option β} (none : ∀ one, kind one → f one = none)
    (swells : Swells kind lead whole) : whole.filterMap f = lead.filterMap f := by
  induction swells with
  | nil => rfl
  | keep one _ ih => rw [List.filterMap_cons, List.filterMap_cons, ih]
  | more is _ ih => rw [List.filterMap_cons_none (none _ is), ih]

theorem split {front back : List α} {one : α} (swells : Swells kind (front ++ one :: back) whole) :
    ∃ before after, whole = before ++ one :: after ∧ Swells kind front before ∧ Swells kind back after := by
  generalize is : front ++ one :: back = list at swells
  induction swells generalizing front with
  | nil => simp at is
  | @keep rest grown other swells ih =>
      cases front with
      | nil =>
          obtain ⟨rfl, rfl⟩ := List.cons.inj is
          exact ⟨[], grown, rfl, .nil, swells⟩
      | cons first front =>
          obtain ⟨rfl, same⟩ := List.cons.inj is
          obtain ⟨before, after, rfl, ahead, behind⟩ := ih same
          exact ⟨_ :: before, after, rfl, .keep _ ahead, behind⟩
  | more kind _ ih =>
      obtain ⟨before, after, rfl, ahead, behind⟩ := ih is
      exact ⟨_ :: before, after, rfl, .more kind ahead, behind⟩

end Swells

end ConsentBanner

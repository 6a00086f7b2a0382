import ConsentBanner.Proofs.Page.Nesting

/-!
# The order of a document

An element comes before all that stand inside it, in every document that is read from a text
(`Document.isOrdered_ofText`).  So the lineage of an element holds the element, all that it stands inside, and no
more (`Document.mem_lineage`).

The elements are numbered as their start tags come in the tree: an element comes before all that stand inside it, and
these come right behind it, before anything that stands elsewhere (`Document.numbering`).
-/

set_option autoImplicit false

namespace ConsentBanner.Markup.Document

theorem isSome_element? {document : Document} {place : Nat} :
    (document.element? place).isSome = true ↔ place < document.elements.size := by
  simp [element?]

/-- Each element comes behind the one that it stands right inside. -/
def IsOrdered (document : Document) : Prop := ∀ inner outer, document.IsChild inner outer → outer < inner

theorem IsOrdered.lt {document : Document} (ordered : document.IsOrdered) {inner outer : Nat}
    (below : document.Below inner outer) : outer < inner := by
  induction below with
  | single child => exact ordered _ _ child
  | tail _ child ih => exact Nat.lt_trans (ordered _ _ child) ih

/-- One more element may stand inside any that are there. -/
theorem IsOrdered.push {found : Array Element} (ordered : IsOrdered ⟨found⟩) {element : Element}
    (known : ∀ outer, element.parent = some outer → outer < found.size) : IsOrdered ⟨found.push element⟩ := by
  rintro inner outer ⟨child, isElement, isParent⟩
  rw [element?, Array.getElem?_push] at isElement
  split at isElement
  next last =>
    cases isElement
    exact last ▸ known outer isParent
  next => exact ordered inner outer ⟨child, isElement, isParent⟩

/-- What is found remains in order as elements are found, and gets no smaller. -/
structure Extends (found more : Array Element) : Prop where
  ordered : IsOrdered ⟨more⟩
  grown : found.size ≤ more.size

theorem extends_foldl {list : Array Element → Nat → Array Element} (least : Nat)
    (one : ∀ found number, least ≤ found.size → IsOrdered ⟨found⟩ → Extends found (list found number)) :
    ∀ (children : List Nat) (found : Array Element), least ≤ found.size → IsOrdered ⟨found⟩ →
      Extends found (children.foldl list found) := by
  intro children
  induction children with
  | nil => exact fun found _ ordered => ⟨ordered, Nat.le_refl _⟩
  | cons number rest ih =>
      intro found enough ordered
      have first := one found number enough ordered
      have others := ih (list found number) (Nat.le_trans enough first.grown) first.ordered
      exact ⟨others.ordered, Nat.le_trans first.grown others.grown⟩

/-- Listing the elements at and below a vertex keeps the order if the element around the vertex is found. -/
theorem extends_collect (tree : Tree) (fuel : Nat) : ∀ (parent : Option Nat) (inFragment : Bool)
    (found : Array Element) (number : Nat), (∀ outer, parent = some outer → outer < found.size) →
    IsOrdered ⟨found⟩ → Extends found (collect tree fuel parent inFragment found number) := by
  induction fuel with
  | zero => exact fun _ _ found _ _ ordered => ⟨ordered, Nat.le_refl _⟩
  | succ fuel ih =>
      intro parent inFragment found number known ordered
      have below : ∀ (inFragment : Bool) (children : List Nat),
          Extends found (children.foldl (collect tree fuel parent inFragment) found) := by
        intro inFragment children
        refine extends_foldl found.size (fun found number enough ordered => ?_) children found
          (Nat.le_refl _) ordered
        exact ih parent inFragment found number (fun outer is => Nat.lt_of_lt_of_le (known outer is) enough) ordered
      have inside : ∀ (element : Element) (children : List Nat), element.parent = parent →
          Extends found (children.foldl (collect tree fuel (some found.size) false) (found.push element)) := by
        intro element children stands
        have pushed : IsOrdered ⟨found.push element⟩ := ordered.push (stands ▸ known)
        have size : (found.push element).size = found.size + 1 := Array.size_push element
        have listed := extends_foldl (found.size + 1) (fun found number enough ordered =>
          ih _ false found number (fun outer is => Option.some.inj is ▸ enough) ordered) children _
          (Nat.le_of_eq size.symm) pushed
        exact ⟨listed.ordered, Nat.le_trans (by omega) listed.grown⟩
      rw [collect]
      split
      next => exact ⟨ordered, Nat.le_refl _⟩
      next space name properties _ children _ => exact inside _ children rfl
      next children _ => exact below true children
      next children _ _ _ => exact below inFragment children

/-- In a document that is read from a text each element comes behind the one that it stands right inside. -/
theorem isOrdered_ofText (text : String) : (ofText text).IsOrdered := by
  have empty : IsOrdered ⟨#[]⟩ := by
    rintro inner outer ⟨element, isElement, -⟩
    cases isElement
  exact (extends_collect _ _ _ _ _ _ (fun outer is => by cases is) empty).ordered

theorem IsOrdered.isSome_of_isChild {document : Document} (ordered : document.IsOrdered) {inner outer : Nat}
    (child : document.IsChild inner outer) : (document.element? outer).isSome = true := by
  have before := ordered inner outer child
  obtain ⟨element, isElement, -⟩ := child
  obtain ⟨within, -⟩ := Array.getElem?_eq_some_iff.mp isElement
  exact isSome_element?.mpr (Nat.lt_trans before within)

/-- The lineage of an element reaches all that it stands inside: with each step outward the places get smaller. -/
theorem IsOrdered.mem_lineageWith {document : Document} (ordered : document.IsOrdered) {outer : Nat} (fuel : Nat) :
    ∀ place, place < fuel → (document.element? place).isSome = true →
      (outer = place ∨ document.Below place outer) → outer ∈ document.lineageWith fuel place := by
  induction fuel with
  | zero => exact fun _ none => absurd none (Nat.not_lt_zero _)
  | succ fuel ih =>
      intro place enough isElement around
      obtain ⟨element, isElement⟩ := Option.isSome_iff_exists.mp isElement
      rw [lineageWith, isElement]
      rcases around with rfl | below
      · exact List.mem_cons_self
      · obtain ⟨next, ⟨child, isChild, isParent⟩, above⟩ := Relation.TransGen.head'_iff.mp below
        obtain rfl : element = child := Option.some.inj (isElement.symm.trans isChild)
        have child : document.IsChild place next := ⟨element, isElement, isParent⟩
        have earlier := ordered place next child
        simp only [isParent]
        refine List.mem_cons_of_mem place (ih next (by omega) (ordered.isSome_of_isChild child) ?_)
        exact Relation.reflTransGen_iff_eq_or_transGen.mp above

/-- The lineage of an element is the element and all that it stands inside. -/
theorem IsOrdered.mem_lineage {document : Document} (ordered : document.IsOrdered) {place outer : Nat}
    (isElement : (document.element? place).isSome = true) :
    outer ∈ document.lineage place ↔ outer = place ∨ document.Below place outer := by
  exact ⟨eq_or_below _ _, ordered.mem_lineageWith _ place (isSome_element?.mp isElement) isElement⟩

theorem IsOrdered.isSome_of_below {document : Document} (ordered : document.IsOrdered) {inner outer : Nat}
    (below : document.Below inner outer) : (document.element? outer).isSome = true := by
  obtain ⟨next, -, child⟩ := Relation.TransGen.tail'_iff.mp below
  exact ordered.isSome_of_isChild child

/-! ## The numbers of elements -/

/-- What is numbered between an element and one right inside it stands inside it too. -/
def IsNested (document : Document) : Prop :=
  ∀ inner outer, document.IsChild inner outer → ∀ between, outer < between → between < inner →
    document.Below between outer

theorem IsNested.below {document : Document} (nested : document.IsNested) {inner outer : Nat}
    (below : document.Below inner outer) {between : Nat} (behind : outer < between) (before : between < inner) :
    document.Below between outer := by
  induction below with
  | single child => exact nested _ _ child between behind before
  | @tail middle outer inside child ih =>
      rcases Nat.lt_trichotomy between middle with earlier | rfl | later
      · exact nested _ _ child between behind earlier
      · exact .single child
      · exact (ih later).tail child

/-- All elements found behind this one stand inside it. -/
def IsOpen (found : Array Element) (outer : Nat) : Prop :=
  outer < found.size ∧ ∀ place, outer < place → place < found.size → Below ⟨found⟩ place outer

/-- More elements are found, and those found before remain. -/
def Continues (found more : Array Element) : Prop :=
  ∀ (place : Nat) (element : Element), found[place]? = some element → more[place]? = some element

namespace Continues

variable {found more last : Array Element}

theorem refl (found : Array Element) : Continues found found := fun _ _ => id

theorem trans (first : Continues found more) (second : Continues more last) : Continues found last :=
  fun place element is => second place element (first place element is)

theorem push (found : Array Element) (element : Element) : Continues found (found.push element) := by
  intro place other is
  obtain ⟨within, rfl⟩ := Array.getElem?_eq_some_iff.mp is
  exact Array.getElem?_push_lt within

theorem below (continues : Continues found more) {inner outer : Nat} (below : Below ⟨found⟩ inner outer) :
    Below ⟨more⟩ inner outer := by
  have child : ∀ inner outer, IsChild ⟨found⟩ inner outer → IsChild ⟨more⟩ inner outer :=
    fun _ _ ⟨element, is, stands⟩ => ⟨element, continues _ element is, stands⟩
  exact Relation.TransGen.mono child _ _ below

end Continues

/-- What is found remains nested as elements are found, and the element around them remains open. -/
structure Lists (parent : Option Nat) (found more : Array Element) : Prop where
  continues : Continues found more
  nested : IsNested ⟨more⟩
  isOpen : ∀ outer, parent = some outer → IsOpen more outer

theorem IsNested.push {found : Array Element} (nested : IsNested ⟨found⟩) {element : Element}
    (known : ∀ outer, element.parent = some outer → IsOpen found outer) : IsNested ⟨found.push element⟩ := by
  rintro inner outer ⟨child, isElement, isParent⟩ between behind before
  rw [element?, Array.getElem?_push] at isElement
  refine (Continues.push found element).below ?_
  split at isElement
  next last =>
    cases isElement
    exact (known outer isParent).2 between behind (last ▸ before)
  next => exact nested inner outer ⟨child, isElement, isParent⟩ between behind before

theorem isOpen_push (found : Array Element) (element : Element) : IsOpen (found.push element) found.size := by
  rw [IsOpen, Array.size_push]
  exact ⟨Nat.lt_succ_self _, fun place behind within => absurd behind (by omega)⟩

theorem IsOpen.push {found : Array Element} {outer : Nat} (isOpen : IsOpen found outer) {element : Element}
    (stands : element.parent = some outer) {more : Array Element} (continues : Continues (found.push element) more)
    (inside : IsOpen more found.size) : IsOpen more outer := by
  have child : Below ⟨more⟩ found.size outer :=
    .single ⟨element, continues _ _ Array.getElem?_push_size, stands⟩
  refine ⟨Nat.lt_trans isOpen.1 inside.1, fun place behind within => ?_⟩
  rcases Nat.lt_trichotomy place found.size with earlier | rfl | later
  · exact ((Continues.push found element).trans continues).below (isOpen.2 place behind earlier)
  · exact child
  · exact (inside.2 place later within).trans child

/-- Listing the children one by one keeps the elements nested if listing one of them does. -/
theorem lists_foldl {list : Array Element → Nat → Array Element} {parent : Option Nat}
    (one : ∀ found number, IsNested ⟨found⟩ → (∀ outer, parent = some outer → IsOpen found outer) →
      Lists parent found (list found number)) :
    ∀ (children : List Nat) (found : Array Element), IsNested ⟨found⟩ →
      (∀ outer, parent = some outer → IsOpen found outer) → Lists parent found (children.foldl list found) := by
  intro children
  induction children with
  | nil => exact fun found nested known => ⟨.refl found, nested, known⟩
  | cons number rest ih =>
      intro found nested known
      have first := one found number nested known
      have others := ih (list found number) first.nested first.isOpen
      exact ⟨first.continues.trans others.continues, others.nested, others.isOpen⟩

/-- Listing the elements at and below a vertex keeps them nested if the element around the vertex is open. -/
theorem lists_collect (tree : Tree) (fuel : Nat) : ∀ (parent : Option Nat) (inFragment : Bool)
    (found : Array Element) (number : Nat), IsNested ⟨found⟩ → (∀ outer, parent = some outer → IsOpen found outer) →
    Lists parent found (collect tree fuel parent inFragment found number) := by
  induction fuel with
  | zero => exact fun _ _ found _ nested known => ⟨.refl found, nested, known⟩
  | succ fuel ih =>
      intro parent inFragment found number nested known
      rw [collect]
      split
      next => exact ⟨.refl found, nested, known⟩
      next space name properties _ children _ =>
        -- The children are listed with the new element open, of which nothing stands behind yet.
        have inside : ∀ element : Element, element.parent = parent → Lists parent found
            (children.foldl (collect tree fuel (some found.size) false) (found.push element)) := by
          intro element stands
          have listed := lists_foldl (ih (some found.size) false) children _ (nested.push (stands ▸ known))
            fun outer is => Option.some.inj is ▸ isOpen_push found element
          refine ⟨(Continues.push found element).trans listed.continues, listed.nested, fun outer is => ?_⟩
          exact (known outer is).push (stands.trans is) listed.continues (listed.isOpen _ rfl)
        exact inside _ rfl
      next children _ => exact lists_foldl (ih parent true) children found nested known
      next children _ _ _ => exact lists_foldl (ih parent inFragment) children found nested known

theorem isNested_ofText (text : String) : (ofText text).IsNested := by
  have empty : IsNested ⟨#[]⟩ := by
    rintro inner outer ⟨element, isElement, -⟩
    cases isElement
  exact (lists_collect _ _ _ _ _ _ empty fun outer is => by cases is).nested

/-- What stands inside an element of a document that is read from a text comes behind it, with nothing in between
that does not stand inside it. -/
theorem numbering {text : String} {inner outer : Nat} (below : (ofText text).Below inner outer) :
    outer < inner ∧ ∀ between, outer < between → between ≤ inner → (ofText text).Below between outer := by
  refine ⟨(isOrdered_ofText text).lt below, fun between behind before => ?_⟩
  rcases Nat.lt_or_eq_of_le before with earlier | rfl
  · exact (isNested_ofText text).below below behind earlier
  · exact below

end ConsentBanner.Markup.Document

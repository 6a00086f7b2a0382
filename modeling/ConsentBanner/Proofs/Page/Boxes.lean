import ConsentBanner.Page.Snapshot
import Mathlib.Data.List.Induction

/-!
# Boxes that are switched

A click on a box that nothing follows switches that box, leaves its entry in the log and changes nothing else.
So boxes can be brought to wanted states by clicks on those that differ, and each is clicked once.
-/

set_option autoImplicit false

namespace ConsentBanner

namespace Snapshot

/-- A page is like another one but for the states of boxes and the log. -/
def Resembles (page other : Snapshot) : Prop :=
  other = { page with checked := other.checked, events := other.events }

theorem Resembles.refl (page : Snapshot) : page.Resembles page := rfl

theorem Resembles.trans {page other last : Snapshot} (first : page.Resembles other) (second : other.Resembles last) :
    page.Resembles last := by
  rw [Resembles, second, first]

/-- The box is checked. -/
def isOn (page : Snapshot) (node : NodeId) : Bool :=
  match page.document.element? node with
  | some element => page.isChecked node element
  | none => false

def switched (page : Snapshot) (node : NodeId) : Snapshot :=
  match page.document.element? node with
  | some element => page.clicked node element
  | none => page

def IsBox (page : Snapshot) (node : NodeId) : Prop := (page.document.element? node).any isSwitch = true

instance (page : Snapshot) (node : NodeId) : Decidable (page.IsBox node) := inferInstanceAs (Decidable (_ = true))

variable {page other : Snapshot} {node : NodeId}

theorem IsBox.element (box : page.IsBox node) :
    ∃ element, page.document.element? node = some element ∧ isSwitch element = true := by
  rw [IsBox] at box
  cases isElement : page.document.element? node with
  | none => simp [isElement] at box
  | some element => exact ⟨element, rfl, by simpa [isElement] using box⟩

theorem Resembles.isBox (resembles : page.Resembles other) (box : page.IsBox node) : other.IsBox node := by
  rw [resembles]
  exact box

theorem switched_eq (hooks : page.hooks = []) (box : page.IsBox node) :
    page.switched node = { page with
      checked := page.checked.put node !page.isOn node, events := page.events ++ [.click node] } := by
  obtain ⟨element, isElement, isSwitch⟩ := box.element
  have nothing : ∀ other : Snapshot, other.hooks = [] → other.applyAll (other.clickEffects node) = other := by
    intro other none
    rw [clickEffects, none]
    rfl
  rw [switched, isElement, isOn, isElement]
  simp only [clicked, isSwitch, if_true]
  rw [nothing _ (by exact hooks)]
  rfl

theorem isOn_switched_self (hooks : page.hooks = []) (box : page.IsBox node) :
    (page.switched node).isOn node = !page.isOn node := by
  rw [switched_eq hooks box]
  generalize page.isOn node = now
  obtain ⟨element, isElement, -⟩ := box.element
  simp only [isOn, isElement, isChecked, Keyed.get?_put_self]

theorem isOn_switched_of_ne (hooks : page.hooks = []) (box : page.IsBox node) {apart : NodeId}
    (differ : node ≠ apart) : (page.switched node).isOn apart = page.isOn apart := by
  rw [switched_eq hooks box]
  generalize page.isOn node = now
  simp only [isOn, isChecked, Keyed.get?_put_of_ne _ _ differ]

theorem resembles_switched (hooks : page.hooks = []) (box : page.IsBox node) :
    page.Resembles (page.switched node) := by
  rw [switched_eq hooks box]
  rfl

/-! ## Bringing boxes to wanted states -/

/-- The page after a click on a box, if its state is not the wanted one. -/
def bring (page : Snapshot) (wish : NodeId × Bool) : Snapshot :=
  if page.isOn wish.1 = wish.2 then page else page.switched wish.1

theorem resembles_bring {wish : NodeId × Bool} (hooks : page.hooks = []) (box : page.IsBox wish.1) :
    page.Resembles (page.bring wish) := by
  rw [bring]
  split
  · exact .refl page
  · exact resembles_switched hooks box

theorem resembles_foldl_bring {wishes : List (NodeId × Bool)} (hooks : page.hooks = [])
    (boxes : ∀ wish ∈ wishes, page.IsBox wish.1) : page.Resembles (wishes.foldl bring page) := by
  induction wishes generalizing page with
  | nil => exact .refl page
  | cons wish rest ih =>
      have first := resembles_bring hooks (boxes wish List.mem_cons_self)
      have still : (page.bring wish).hooks = [] := by rw [first]; exact hooks
      exact first.trans (ih still fun other member => first.isBox (boxes other (List.mem_cons_of_mem wish member)))

/-- The boxes that are not in their wanted states, each once, in the order of the wishes. -/
def differing (page : Snapshot) (wishes : List (NodeId × Bool)) : List NodeId :=
  ((wishes.filter fun wish => page.isOn wish.1 != wish.2).map Prod.fst).eraseDups

/-- No box is wanted in both states. -/
def Agree (wishes : List (NodeId × Bool)) : Prop :=
  ∀ one ∈ wishes, ∀ two ∈ wishes, one.1 = two.1 → one.2 = two.2

instance (wishes : List (NodeId × Bool)) : Decidable (Agree wishes) :=
  inferInstanceAs (Decidable (∀ one ∈ wishes, ∀ two ∈ wishes, one.1 = two.1 → one.2 = two.2))

/-- Boxes were brought to wanted states by clicks on those that differed, and nothing else has happened. -/
structure Brought (page : Snapshot) (wishes : List (NodeId × Bool)) (after : Snapshot) : Prop where
  clicked : after.events = page.events ++ (page.differing wishes).map .click
  granted : ∀ wish ∈ wishes, after.isOn wish.1 = wish.2
  others : ∀ node, node ∉ wishes.map Prod.fst → after.isOn node = page.isOn node
  resembles : page.Resembles after

variable {wishes : List (NodeId × Bool)} {wish : NodeId × Bool}

theorem differing_of_granted (granted : page.isOn wish.1 = wish.2) :
    page.differing (wishes ++ [wish]) = page.differing wishes := by
  simp [differing, List.filter_append, granted]

theorem eraseDups_snoc (nodes : List NodeId) (node : NodeId) :
    (nodes ++ [node]).eraseDups = if node ∈ nodes then nodes.eraseDups else nodes.eraseDups ++ [node] := by
  rw [List.eraseDups_append]
  by_cases known : node ∈ nodes <;> simp [known, List.removeAll, List.eraseDups_cons]

theorem differing_of_not_granted (granted : page.isOn wish.1 ≠ wish.2) :
    page.differing (wishes ++ [wish]) =
      if wish.1 ∈ page.differing wishes then page.differing wishes else page.differing wishes ++ [wish.1] := by
  have one : [wish].filter (fun wish => page.isOn wish.1 != wish.2) = [wish] := by simp [granted]
  rw [differing, List.filter_append, List.map_append, one, List.map_singleton, eraseDups_snoc]
  simp only [differing, List.mem_eraseDups]

theorem mem_differing {node : NodeId} :
    node ∈ page.differing wishes ↔ ∃ wish ∈ wishes, page.isOn wish.1 ≠ wish.2 ∧ wish.1 = node := by
  simp [differing, and_assoc]

/-- A wish that was there before adds nothing. -/
theorem differing_of_mem (member : wish ∈ wishes) :
    page.differing (wishes ++ [wish]) = page.differing wishes := by
  by_cases granted : page.isOn wish.1 = wish.2
  · exact differing_of_granted granted
  · rw [differing_of_not_granted granted, if_pos (mem_differing.mpr ⟨wish, member, granted, rfl⟩)]

theorem differing_of_new (granted : page.isOn wish.1 ≠ wish.2) (new : wish.1 ∉ wishes.map Prod.fst) :
    page.differing (wishes ++ [wish]) = page.differing wishes ++ [wish.1] := by
  rw [differing_of_not_granted granted, if_neg]
  intro known
  obtain ⟨other, member, -, same⟩ := mem_differing.mp known
  exact new (List.mem_map.mpr ⟨other, member, same⟩)

theorem Brought.keep {now : Snapshot} (brought : page.Brought wishes now) (granted : now.isOn wish.1 = wish.2)
    (same : page.differing (wishes ++ [wish]) = page.differing wishes) : page.Brought (wishes ++ [wish]) now := by
  refine ⟨same ▸ brought.clicked, fun one member => ?_, fun node apart => brought.others node ?_, brought.resembles⟩
  · rcases List.mem_append.mp member with earlier | last
    · exact brought.granted one earlier
    · exact List.mem_singleton.mp last ▸ granted
  · exact fun member => apart (List.map_append ▸ List.mem_append_left _ member)

theorem Brought.click {now : Snapshot} (brought : page.Brought wishes now) (hooks : page.hooks = [])
    (box : page.IsBox wish.1) (differs : page.isOn wish.1 ≠ wish.2) (new : wish.1 ∉ wishes.map Prod.fst) :
    page.Brought (wishes ++ [wish]) (now.switched wish.1) := by
  have still : now.hooks = [] := by
    rw [brought.resembles]
    exact hooks
  have isBox := brought.resembles.isBox box
  have apart : ∀ {node}, node ∈ wishes.map Prod.fst → wish.1 ≠ node := fun known same => new (same ▸ known)
  refine ⟨?_, fun one member => ?_, fun node apart => ?_, brought.resembles.trans (resembles_switched still isBox)⟩
  · rw [switched_eq still isBox, differing_of_new differs new, List.map_append, ← List.append_assoc,
      ← brought.clicked]
    rfl
  · rcases List.mem_append.mp member with earlier | last
    · rw [isOn_switched_of_ne still isBox (apart (List.mem_map_of_mem earlier))]
      exact brought.granted one earlier
    · obtain rfl := List.mem_singleton.mp last
      rw [isOn_switched_self still isBox, brought.others one.1 new, Bool.not_eq]
      exact differs
  · simp only [List.map_append, List.mem_append, not_or] at apart
    rw [isOn_switched_of_ne still isBox fun same => apart.2 (by simp [same])]
    exact brought.others node apart.1

/-- Wishes that agree are granted by a click on each box that differs. -/
theorem brought (hooks : page.hooks = []) (agree : Agree wishes) (boxes : ∀ wish ∈ wishes, page.IsBox wish.1) :
    page.Brought wishes (wishes.foldl bring page) := by
  induction wishes using List.reverseRecOn with
  | nil => exact ⟨(List.append_nil page.events).symm, fun _ => nofun, fun _ _ => rfl, .refl page⟩
  | append_singleton before wish ih =>
      have within : before ⊆ before ++ [wish] := List.subset_append_left _ _
      have last : wish ∈ before ++ [wish] := List.mem_append_right _ List.mem_cons_self
      have so_far := ih (fun one isOne two isTwo => agree one (within isOne) two (within isTwo))
        fun one isOne => boxes one (within isOne)
      rw [List.foldl_append, List.foldl_cons, List.foldl_nil]
      generalize before.foldl bring page = now at so_far
      by_cases known : wish.1 ∈ before.map Prod.fst
      · obtain ⟨earlier, member, same⟩ := List.mem_map.mp known
        obtain rfl : earlier = wish := Prod.ext same (agree earlier (within member) wish last same)
        have granted := so_far.granted earlier member
        rw [bring, if_pos granted]
        exact so_far.keep granted (differing_of_mem member)
      · have unchanged := so_far.others wish.1 known
        by_cases granted : page.isOn wish.1 = wish.2
        · have stays := unchanged.trans granted
          rw [bring, if_pos stays]
          exact so_far.keep stays (differing_of_granted granted)
        · rw [bring, if_neg (unchanged ▸ granted)]
          exact so_far.click hooks (boxes wish last) granted known

/-- Where all wishes are granted, nothing is clicked. -/
theorem foldl_bring_of_granted (granted : ∀ wish ∈ wishes, page.isOn wish.1 = wish.2) :
    wishes.foldl bring page = page := by
  induction wishes with
  | nil => rfl
  | cons wish rest ih =>
      rw [List.foldl_cons, bring, if_pos (granted wish List.mem_cons_self)]
      exact ih fun other member => granted other (List.mem_cons_of_mem wish member)

end Snapshot

end ConsentBanner

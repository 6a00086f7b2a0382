import ConsentBanner.Proofs.Flow.Consulted
import ConsentBanner.Proofs.Page.Nesting

/-!
# What selectors ask for

A selector asks for a condition of some kind if the right end of each of its alternatives has one.  Then all elements
that it describes satisfy such a condition, whatever stands around them: `Selector.condition_of_describes`.
-/

set_option autoImplicit false

namespace ConsentBanner

namespace Selector

def Chain.asks (kind : Condition → Bool) : Chain → Bool
  | .last compound => compound.any kind
  | .link compound _ _ => compound.any kind

def asks (kind : Condition → Bool) (selector : Selector) : Bool := selector.alternatives.all (·.asks kind)

def asksFor (text : String) (kind : Condition → Bool) : Bool := (ofText? text).any (·.asks kind)

variable {setting : Setting} {place : Nat} {kind : Condition → Bool}

theorem holds_of_allHold {compound : List Condition} (all : allHold setting place compound = true) :
    ∀ condition ∈ compound, condition.holds setting place = true := by
  induction compound with
  | nil => exact fun _ => nofun
  | cons condition rest ih =>
      rw [allHold, Bool.and_eq_true] at all
      intro other member
      rcases List.mem_cons.mp member with rfl | later
      · exact all.1
      · exact ih all.2 other later

theorem Chain.holds_of_asks {chain : Chain} (asks : chain.asks kind = true)
    (holds : chain.holds setting place = true) :
    ∃ condition, kind condition = true ∧ condition.holds setting place = true := by
  cases chain with
  | last compound =>
      rw [Chain.holds] at holds
      obtain ⟨condition, member, isKind⟩ := List.any_eq_true.mp asks
      exact ⟨condition, isKind, holds_of_allHold holds condition member⟩
  | link compound combinator before =>
      rw [Chain.holds, Bool.and_eq_true] at holds
      obtain ⟨condition, member, isKind⟩ := List.any_eq_true.mp asks
      exact ⟨condition, isKind, holds_of_allHold holds.1 condition member⟩

theorem holds_of_anyHolds {alternatives : List Chain} (asks : alternatives.all (·.asks kind) = true)
    (any : anyHolds setting place alternatives = true) :
    ∃ condition, kind condition = true ∧ condition.holds setting place = true := by
  induction alternatives with
  | nil =>
      rw [anyHolds] at any
      cases any
  | cons chain rest ih =>
      rw [List.all_cons, Bool.and_eq_true] at asks
      rw [anyHolds, Bool.or_eq_true] at any
      rcases any with here | later
      · exact chain.holds_of_asks asks.1 here
      · exact ih asks.2 later

/-- The text of a selector describes an element of a document. -/
def describes (text : String) (document : Markup.Document) (place : Nat) : Bool :=
  (ofText? text).any (·.accepts document none place)

variable {text : String} {document : Markup.Document}

theorem condition_of_describes (asks : asksFor text kind = true) (described : describes text document place = true) :
    ∃ condition, kind condition = true ∧ condition.holds ⟨document, none, none⟩ place = true := by
  obtain ⟨selector, read, accepts⟩ := (Option.any_eq_true _ _).mp described
  rw [asksFor, read, Option.any_some] at asks
  exact holds_of_anyHolds asks accepts

def Condition.isName (name : String) : Condition → Bool
  | .name wanted => wanted == name
  | _ => false

theorem comparedName_of_lower {name : String} (lower : name.toLower = name) (space : Markup.Space) :
    comparedName space name = name := by
  cases space with
  | html => exact lower
  | _ => rfl

theorem name_of_describes {name : String} (asks : asksFor text (Condition.isName name) = true)
    (lower : name.toLower = name) (described : describes text document place = true) :
    ∃ element, document.element? place = some element ∧ element.name = name := by
  obtain ⟨condition, isName, holds⟩ := condition_of_describes asks described
  cases condition with
  | name wanted =>
      obtain rfl : wanted = name := beq_iff_eq.mp isName
      rw [Condition.holds] at holds
      obtain ⟨element, isElement, named⟩ := (Option.any_eq_true _ _).mp holds
      exact ⟨element, isElement, (beq_iff_eq.mp named).trans (comparedName_of_lower lower element.space)⟩
  | _ => cases isName

end Selector

namespace Snapshot

variable {page : Snapshot} {selector : String} {node : NodeId}

theorem live_of_isAttached (attached : page.isAttached node = true) :
    ∃ element, page.document.element? node = some element ∧ page.live node = .ok element := by
  have known : (page.document.element? node).isSome = true := (Bool.and_eq_true_iff.mp attached).1
  obtain ⟨element, isElement⟩ := Option.isSome_iff_exists.mp known
  exact ⟨element, isElement, by rw [live, isElement]; exact if_pos attached⟩

/-- What a call finds is described by the selector and belongs to the page. -/
theorem describes_of_perform {nodes : List NodeId}
    (found : (page.perform (.queryAll .document selector)).1 = .ok nodes) (member : node ∈ nodes) :
    Selector.describes selector page.document node = true ∧ page.isAttached node = true := by
  have selected := mem_select_of_perform found.symm node member
  constructor
  · rw [select] at selected
    rw [Selector.describes]
    cases read : Selector.ofText? selector with
    | none =>
        rw [read] at selected
        cases selected
    | some known =>
        rw [read] at selected
        exact (List.mem_filter.mp selected).2
  · rw [perform] at found
    split at found
    · cases found
    · have queried : page.query .document selector = .ok nodes := found
      exact query_attached queried node member

end Snapshot

/-- What calls find on a snapshot is described by the selector and belongs to it. -/
theorem FixedPage.describes_of_mem_elements {page : Snapshot} {selector : String} {node : NodeId}
    (member : node ∈ (ofSnapshot page).elements .document selector) :
    Selector.describes selector page.document node = true ∧ page.isAttached node = true := by
  have found : node ∈ Primitive.orElse (page.perform (.queryAll .document selector)).1 [] := member
  cases reply : (page.perform (.queryAll .document selector)).1 with
  | error error =>
      rw [reply] at found
      cases found
  | ok nodes =>
      rw [reply] at found
      exact Snapshot.describes_of_perform reply found

end ConsentBanner

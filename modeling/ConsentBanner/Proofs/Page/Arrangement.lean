import ConsentBanner.Proofs.Page.Liveness
import ConsentBanner.Proofs.Page.Order
import ConsentBanner.Proofs.Query.Pairs

/-!
# The arrangement of answers

What a call finds inside an element comes in the order of the document.  What it finds in the whole document comes in
the order in which the elements were made, and this is another one where an element that was made later was put
before others, as is one that does not belong into a table.

Apart from that order the two agree: a selector that does not ask for the scope describes inside an element what it
describes in the document and stands inside that element (`Snapshot.query_arrangement`).
-/

set_option autoImplicit false

namespace ConsentBanner

namespace Markup.Document

/-- One element was made before another one; of two that were made at once, it stands first. -/
def MadeBefore (document : Document) (one other : Nat) : Prop :=
  insertByRank.rank document one < insertByRank.rank document other ∨
    insertByRank.rank document one = insertByRank.rank document other ∧ one < other
  deriving Decidable

/-- Of two elements the one that stands first was made first. -/
def MadeInOrder (document : Document) (places : List Nat) : Prop :=
  ∀ one ∈ places, ∀ other ∈ places, one < other → document.MadeBefore one other

namespace MadeBefore

variable {document : Document} {one other last : Nat}

theorem trans (first : document.MadeBefore one other) (second : document.MadeBefore other last) :
    document.MadeBefore one last := by
  unfold MadeBefore at *
  omega

theorem ne (before : document.MadeBefore one other) : one ≠ other := by
  rintro rfl
  unfold MadeBefore at before
  omega

theorem asymm (before : document.MadeBefore one other) : ¬document.MadeBefore other one := by
  unfold MadeBefore at *
  omega

end MadeBefore

variable {document : Document}

/-- A place that is smaller than all others comes among them where it was made. -/
theorem pairwise_insertByRank {place : Nat} {places : List Nat} (smaller : ∀ other ∈ places, place < other)
    (made : places.Pairwise document.MadeBefore) :
    (document.insertByRank place places).Pairwise document.MadeBefore := by
  induction places with
  | nil => exact List.pairwise_singleton _ _
  | cons other rest ih =>
      obtain ⟨first, others⟩ := List.pairwise_cons.mp made
      have less := smaller other List.mem_cons_self
      rw [insertByRank]
      split
      next sooner =>
        have before : document.MadeBefore place other := by
          unfold MadeBefore
          omega
        refine List.pairwise_cons.mpr ⟨fun later member => ?_, made⟩
        rcases List.mem_cons.mp member with rfl | member
        · exact before
        · exact before.trans (first later member)
      next later =>
        refine List.pairwise_cons.mpr ⟨fun one member => ?_, ih (fun one member => smaller one (.tail _ member)) others⟩
        rcases List.mem_cons.mp ((document.insertByRank_perm place rest).mem_iff.mp member) with rfl | member
        · exact .inl (Nat.lt_of_not_ge later)
        · exact first one member

/-- All places come in the order in which the elements were made. -/
theorem pairwise_placesByRank (document : Document) : document.placesByRank.Pairwise document.MadeBefore := by
  have sorted : ∀ places : List Nat, places.Pairwise (· < ·) →
      (places.foldr (document.insertByRank ·) []).Perm places ∧
        (places.foldr (document.insertByRank ·) []).Pairwise document.MadeBefore := by
    intro places increasing
    induction places with
    | nil => exact ⟨.refl _, .nil⟩
    | cons place rest ih =>
        obtain ⟨smaller, increasing⟩ := List.pairwise_cons.mp increasing
        obtain ⟨perm, made⟩ := ih increasing
        refine ⟨(document.insertByRank_perm place _).trans (perm.cons place), pairwise_insertByRank ?_ made⟩
        exact fun other member => smaller other (perm.mem_iff.mp member)
  exact (sorted _ List.pairwise_lt_range).2

/-- Elements in the order in which they were made are in that of the document exactly if they were made in it. -/
theorem increasing_iff {places : List Nat} (made : places.Pairwise document.MadeBefore) :
    places.Pairwise (· < ·) ↔ document.MadeInOrder places := by
  constructor
  · intro increasing one first other second less
    obtain ⟨i, within, rfl⟩ := List.getElem_of_mem first
    obtain ⟨j, among, rfl⟩ := List.getElem_of_mem second
    rcases Nat.lt_trichotomy i j with sooner | rfl | later
    · exact List.pairwise_iff_getElem.mp made i j within among sooner
    · exact absurd less (Nat.lt_irrefl _)
    · exact absurd less (Nat.lt_asymm (List.pairwise_iff_getElem.mp increasing j i among within later))
  · intro inOrder
    refine made.imp_of_mem fun {one other} first second before => ?_
    rcases Nat.lt_trichotomy one other with less | same | more
    · exact less
    · exact absurd same before.ne
    · exact absurd (inOrder other second one first more) before.asymm

/-- Elements in the order of the document are in that in which they were made if they were made in the order of the
document. -/
theorem MadeInOrder.pairwise {places : List Nat} (inOrder : document.MadeInOrder places)
    (increasing : places.Pairwise (· < ·)) : places.Pairwise document.MadeBefore :=
  increasing.imp_of_mem fun first second less => inOrder _ first _ second less

theorem isInside_iff (ordered : document.IsOrdered) {inner outer : Nat}
    (known : (document.element? inner).isSome = true) :
    document.isInside inner outer = true ↔ document.Below inner outer := by
  refine ⟨below_of_isInside, fun below => List.contains_iff_mem.mpr ?_⟩
  have member := (ordered.mem_lineage known).mpr (.inr below)
  rw [← List.take_append_drop 1 (document.lineage inner)] at member
  refine (List.mem_append.mp member).resolve_left fun first => Nat.ne_of_lt (ordered.lt below) ?_
  rw [lineage] at first
  cases size : document.elements.size with
  | zero => simp [size, lineageWith] at first
  | succ fuel =>
      obtain ⟨element, isElement⟩ := Option.isSome_iff_exists.mp known
      simpa [size, lineageWith, isElement] using first

end Markup.Document

/-! ## Selectors that do not ask for the scope -/

namespace Selector

mutual

/-- A condition depends on the element that a query starts at. -/
def Condition.asksScope : Condition → Bool
  | .scope => true
  | .not alternatives => anyAskScope alternatives
  | .is alternatives => anyAskScope alternatives
  | .has alternatives => anyAskScope alternatives
  | _ => false

def compoundAsksScope : List Condition → Bool
  | [] => false
  | condition :: rest => condition.asksScope || compoundAsksScope rest

def Chain.asksScope : Chain → Bool
  | .last compound => compoundAsksScope compound
  | .link compound _ before => compoundAsksScope compound || before.asksScope

def anyAskScope : List Chain → Bool
  | [] => false
  | chain :: rest => chain.asksScope || anyAskScope rest

end

/-- A selector depends on the element that a query starts at. -/
def asksScope (selector : Selector) : Bool := anyAskScope selector.alternatives

variable (document : Markup.Document) (scope other : Option Nat)

mutual

theorem Condition.holds_eq (anchor : Option Nat) (place : Nat) : ∀ condition : Condition, condition.asksScope = false →
    condition.holds ⟨document, scope, anchor⟩ place = condition.holds ⟨document, other, anchor⟩ place
  | .any, _ | .name _, _ | .unspaced, _ | .id _, _ | .className _, _ | .attribute _ _ _, _ | .nth _ _ _, _
  | .root, _ | .empty, _ | .anchor, _ | .never, _ => rfl
  | .scope, asks => by cases asks
  | .not alternatives, asks => congrArg (! ·) (anyHolds_eq anchor place alternatives asks)
  | .is alternatives, asks => anyHolds_eq anchor place alternatives asks
  | .has alternatives, asks =>
      congrArg document.places.any (funext fun inner => anyHolds_eq (some place) inner alternatives asks)

theorem allHold_eq (anchor : Option Nat) (place : Nat) : ∀ compound : List Condition,
    compoundAsksScope compound = false →
    allHold ⟨document, scope, anchor⟩ place compound = allHold ⟨document, other, anchor⟩ place compound
  | [], _ => rfl
  | condition :: rest, asks => by
      obtain ⟨first, others⟩ := Bool.or_eq_false_iff.mp asks
      rw [allHold, allHold, Condition.holds_eq anchor place condition first, allHold_eq anchor place rest others]

theorem Chain.holds_eq (anchor : Option Nat) (place : Nat) : ∀ chain : Chain, chain.asksScope = false →
    chain.holds ⟨document, scope, anchor⟩ place = chain.holds ⟨document, other, anchor⟩ place
  | .last compound, asks => allHold_eq anchor place compound asks
  | .link compound combinator before, asks => by
      obtain ⟨here, around⟩ := Bool.or_eq_false_iff.mp asks
      rw [Chain.holds, Chain.holds, allHold_eq anchor place compound here]
      simp only [Chain.holds_eq anchor _ before around]

theorem anyHolds_eq (anchor : Option Nat) (place : Nat) : ∀ chains : List Chain, anyAskScope chains = false →
    anyHolds ⟨document, scope, anchor⟩ place chains = anyHolds ⟨document, other, anchor⟩ place chains
  | [], _ => rfl
  | chain :: rest, asks => by
      obtain ⟨first, others⟩ := Bool.or_eq_false_iff.mp asks
      rw [anyHolds, anyHolds, Chain.holds_eq anchor place chain first, anyHolds_eq anchor place rest others]

end

/-- A selector that does not ask for the scope describes the same elements wherever a query starts. -/
theorem accepts_eq {selector : Selector} (asks : selector.asksScope = false) :
    selector.accepts document scope = selector.accepts document other :=
  funext fun place => anyHolds_eq document scope other none place selector.alternatives asks

theorem inElement_perm {selector : Selector} (asks : selector.asksScope = false) (outer : Nat) :
    (selector.inElement document outer).Perm ((selector.inDocument document).filter (document.isInside · outer)) := by
  rw [inElement, inDocument, List.filter_filter, accepts_eq document (some outer) none asks]
  exact document.placesByRank_perm.symm.filter _

end Selector

namespace Snapshot

variable {page : Snapshot} {selector : String} {known : Selector}

theorem query_document_eq (valid : Selector.ofText? selector = some known) :
    page.query .document selector = .ok ((known.inDocument page.document).filter page.isAttached) := by
  rw [query, valid]

theorem query_node_eq (valid : Selector.ofText? selector = some known) {node : NodeId} {element : Markup.Element}
    (live : page.live node = .ok element) :
    page.query (.node node) selector = .ok ((known.inElement page.document node).filter page.isAttached) := by
  simp only [query, valid, live]
  rfl

/-- On every page that has come of a text the elements are numbered in the order of the document.  What a selector
describes inside a live element comes in that order; what it describes in the document comes in the order in which
the elements were made, and so in that of the document exactly if they were made in it.  A selector that does not ask
for the scope describes inside an element what it describes in the document and stands inside that element, in the
same order exactly if they were made in that of the document. -/
theorem query_arrangement {text : String} {start page : Snapshot} (read : start.document = .ofText text)
    (reached : start.Becomes page) {selector : String} {known : Selector}
    (valid : Selector.ofText? selector = some known) :
    (∀ inner outer, page.document.Below inner outer →
      outer < inner ∧ ∀ between, outer < between → between ≤ inner → page.document.Below between outer) ∧
    ∃ all, (page.reply (.queryAll .document selector)).1 = .ok all ∧
      all.Pairwise page.document.MadeBefore ∧ (all.Pairwise (· < ·) ↔ page.document.MadeInOrder all) ∧
      ∀ node, page.IsLive node → ∃ inside, (page.reply (.queryAll (.node node) selector)).1 = .ok inside ∧
        inside.Pairwise (· < ·) ∧
        (known.asksScope = false →
          (∀ inner, inner ∈ inside ↔ inner ∈ all ∧ page.document.Below inner node) ∧
            (inside.Sublist all ↔ page.document.MadeInOrder inside)) := by
  have document : page.document = .ofText text := reached.precedes.document.trans read
  have ordered : page.document.IsOrdered := document ▸ Markup.Document.isOrdered_ofText text
  have made : ((known.inDocument page.document).filter page.isAttached).Pairwise page.document.MadeBefore :=
    (page.document.pairwise_placesByRank.filter _).filter _
  refine ⟨fun inner outer below => ?_, _, query_document_eq valid, made, Markup.Document.increasing_iff made,
    fun node isLive => ?_⟩
  · rw [document] at below ⊢
    exact Markup.Document.numbering below
  obtain ⟨element, live⟩ := live_of_isLive ordered isLive
  have increasing : ((known.inElement page.document node).filter page.isAttached).Pairwise (· < ·) :=
    (List.pairwise_lt_range.filter _).filter _
  refine ⟨_, query_node_eq valid live, increasing, fun asks => ?_⟩
  have perm : ((known.inElement page.document node).filter page.isAttached).Perm
      (((known.inDocument page.document).filter page.isAttached).filter (page.document.isInside · node)) := by
    rw [List.filter_comm]
    exact (known.inElement_perm page.document asks node).filter page.isAttached
  refine ⟨fun inner => ?_, fun sublist => ?_, fun inOrder => ?_⟩
  · rw [perm.mem_iff, List.mem_filter]
    refine and_congr_right fun member => Markup.Document.isInside_iff ordered ?_
    exact ((isAttached_iff ordered inner).mp (List.mem_filter.mp member).2).known
  · exact (Markup.Document.increasing_iff (made.sublist sublist)).mp increasing
  · have same := perm.eq_of_pairwise (fun _ _ _ _ before after => absurd after before.asymm)
      (inOrder.pairwise increasing) (made.filter _)
    rw [same]
    exact List.filter_sublist

/-- Of three paragraphs one is gone, and one of the others stands in the box. -/
theorem query_arrangement_box :
    let start := ofText "<div><p></p><p id=gone></p></div><p></p>"
    let page := start.apply (.remove "#gone")
    start.Becomes page ∧ page.IsLive 3 ∧
      (page.reply (.queryAll .document "p")).1 = .ok [4, 6] ∧ [4, 6].Pairwise page.document.MadeBefore ∧
      (page.reply (.queryAll (.node 3) "p")).1 = .ok [4] ∧ page.document.Below 4 3 := by
  intro start page
  have read : start.document = .ofText "<div><p></p><p id=gone></p></div><p></p>" := rfl
  have reached : start.Becomes page := .effect (.remove "#gone") (.refl page)
  have ordered : page.document.IsOrdered := by
    rw [reached.precedes.document, read]
    exact Markup.Document.isOrdered_ofText _
  have live : page.IsLive 3 := (isAttached_iff ordered 3).mp (by decide +kernel)
  have wide : (page.reply (.queryAll .document "p")).1 = .ok [4, 6] := by decide +kernel
  have narrow : (page.reply (.queryAll (.node 3) "p")).1 = .ok [4] := by decide +kernel
  have valid : Selector.ofText? "p" = some ⟨[.last [.name "p"]]⟩ := rfl
  obtain ⟨-, all, isAll, made, -, each⟩ := query_arrangement read reached valid
  obtain ⟨inside, isInside, -, agree⟩ := each 3 live
  obtain rfl : all = [4, 6] := Except.ok.inj (isAll.symm.trans wide)
  obtain rfl : inside = [4] := Except.ok.inj (isInside.symm.trans narrow)
  exact ⟨reached, live, wide, made, narrow, (((agree rfl).1 4).mp List.mem_cons_self).2⟩

/-- A box that stands in a table is put before the table, and was made after it.  So the two come in one order when
they are looked for in the document, and in the other one when they are looked for in its body. -/
theorem query_disorder_table :
    let page := ofText "<table><div></div></table>"
    (page.reply (.queryAll .document "div,table")).1 = .ok [4, 3] ∧
      (page.reply (.queryAll (.node 2) "div,table")).1 = .ok [3, 4] ∧
      ¬[4, 3].Pairwise (· < ·) ∧ ¬[3, 4].Sublist [4, 3] := by
  decide +kernel

end Snapshot

end ConsentBanner

import ConsentBanner.Proofs.Flow.Consulted
import ConsentBanner.Proofs.Query.Filters
import Mathlib.Data.List.Nodup

/-!
# The first match and all matches

`Lookup.find` finds one target, in the first parent; `Lookup.findAll` finds them all, parent by parent.  On a page
that does not change the two agree: the one is the first of the others, a first parent without a target adds none
to them, and where the one lookup fails, the other one fails in the same way (`Lookup.find_leads_findAll`).
-/

set_option autoImplicit false

namespace ConsentBanner

namespace Lookup

variable {α β : Type} {page : FixedPage} {lookup : Lookup α} {f : α → Lookup β}

/-- A lookup that follows on a success comes to the same as by itself. -/
theorem consult_onward {value : α} (first : lookup.run.consult page = some (.ok value)) :
    (lookup >>= f).run.consult page = (f value).run.consult page := by
  change (lookup.run.bind _).consult page = _
  rw [Flow.consult_bind, first]
  rfl

/-- A failure ends what would follow. -/
theorem consult_failed {error : PageError} (first : lookup.run.consult page = some (.error error)) :
    (lookup >>= f).run.consult page = some (.error error) := by
  change (lookup.run.bind _).consult page = _
  rw [Flow.consult_bind, first]
  rfl

/-- Where two lookups in sequence succeed, both do. -/
theorem consult_split {result : β} (succeeds : (lookup >>= f).run.consult page = some (.ok result)) :
    ∃ value, lookup.run.consult page = some (.ok value) ∧ (f value).run.consult page = some (.ok result) := by
  change (lookup.run.bind _).consult page = _ at succeeds
  rw [Flow.consult_bind] at succeeds
  obtain ⟨outcome, first, onward⟩ := Option.bind_eq_some_iff.mp succeeds
  cases outcome with
  | ok value => exact ⟨value, first, onward⟩
  | error error => cases onward

/-- Where two lookups in sequence fail, one of them does. -/
theorem consult_failed_split {error : PageError}
    (fails : (lookup >>= f).run.consult page = some (.error error)) :
    lookup.run.consult page = some (.error error) ∨ ∃ value,
      lookup.run.consult page = some (.ok value) ∧ (f value).run.consult page = some (.error error) := by
  change (lookup.run.bind _).consult page = _ at fails
  rw [Flow.consult_bind] at fails
  obtain ⟨outcome, first, onward⟩ := Option.bind_eq_some_iff.mp fails
  cases outcome with
  | ok value => exact .inr ⟨value, first, onward⟩
  | error other =>
      cases onward
      exact .inl first

end Lookup

def ElementQuery.Finds (page : FixedPage) (query : ElementQuery) (scope : Scope) (nodes : List NodeId) : Prop :=
  (Lookup.findElements query scope).run.consult page = some (.ok nodes)

/-- The parents that a matcher finds, and its pairs: for each parent in order, each target in it in order.  Without a
query for parents the targets are looked for where the lookup starts, and have none. -/
inductive Matcher.Lists (page : FixedPage) (scope : Scope) : Matcher → List NodeId → List Resolved → Prop where
  | alone {target : ElementQuery} {nodes : List NodeId} (found : target.Finds page scope nodes) :
      Lists page scope ⟨target, none⟩ [] (nodes.map fun node => ⟨none, some node⟩)
  | within {target parent : ElementQuery} {parents : List NodeId} {inside : NodeId → List NodeId}
      (found : parent.Finds page scope parents)
      (each : ∀ outer ∈ parents, target.Finds page (.node outer) (inside outer)) :
      Lists page scope ⟨target, some parent⟩ parents
        (parents.flatMap fun outer => (inside outer).map fun node => ⟨some outer, some node⟩)

/-- One match stands at the head of all: it is the first pair if it has a target, and if it has none, there is no
pair with its parent. -/
structure Resolved.Leads (first : Resolved) (parents : List NodeId) (pairs : List Resolved) : Prop where
  parent : first.parent = parents.head?
  target : ∀ node, first.target = some node → pairs.head? = some ⟨first.parent, some node⟩
  nothing : first.target = none → ∀ pair ∈ pairs, pair.parent ≠ first.parent
  empty : first.target = none → parents = [] → pairs = []

/-- Every selector describes an element once, wherever it is looked for. -/
def FixedPage.IsDistinct (page : FixedPage) : Prop :=
  ∀ scope selector nodes, page.reply (.queryAll scope selector) = .ok nodes → nodes.Nodup

variable {page : FixedPage} {scope : Scope}

theorem ElementQuery.Finds.eq {query : ElementQuery} {nodes : List NodeId} (finds : query.Finds page scope nodes) :
    nodes = query.described page scope := by
  have through := (Lookup.Strict.findElements query scope).through finds
  have described := Lookup.Gives.findElements query scope through
  exact Except.ok.inj (Option.some.inj (finds.symm.trans described))

theorem ElementQuery.nodup_described (query : ElementQuery) (scope : Scope) (distinct : page.IsDistinct) :
    (query.described page scope).Nodup := by
  rw [described]
  apply List.Nodup.filter
  rw [FixedPage.elements]
  cases reply : page.reply (.queryAll scope query.selector) with
  | ok nodes => exact distinct _ _ nodes reply
  | error error => exact List.nodup_nil

theorem ElementQuery.Finds.nodup {query : ElementQuery} {nodes : List NodeId} (finds : query.Finds page scope nodes)
    (distinct : page.IsDistinct) : nodes.Nodup := by
  rw [finds.eq]
  exact query.nodup_described scope distinct

namespace Matcher.Lists

variable {matcher : Matcher} {parents : List NodeId} {pairs : List Resolved}

theorem nodup (lists : matcher.Lists page scope parents pairs) (distinct : page.IsDistinct) : pairs.Nodup := by
  cases lists with
  | alone found => exact (found.nodup distinct).map fun one two same => by simpa using same
  | @within target parent parents inside found each =>
      rw [List.nodup_flatMap]
      constructor
      · intro outer member
        exact ((each outer member).nodup distinct).map fun one two same => by simpa using same
      · -- Pairs with different parents are different.
        apply List.Pairwise.imp _ (found.nodup distinct)
        intro one two apart pair here there
        obtain ⟨node, -, rfl⟩ := List.mem_map.mp here
        obtain ⟨other, -, same⟩ := List.mem_map.mp there
        simp only [Resolved.mk.injEq, Option.some.injEq] at same
        exact apart same.1.symm

theorem leads (lists : matcher.Lists page scope parents pairs) (distinct : page.IsDistinct) :
    ∃ first, (Lookup.find matcher scope).run.consult page = some (.ok first) ∧ first.Leads parents pairs := by
  cases lists with
  | @alone target nodes found =>
      refine ⟨⟨none, nodes.head?⟩, ?_, ?_⟩
      · rw [Lookup.find, Lookup.consult_onward found]
        rfl
      · cases nodes with
        | nil => exact ⟨rfl, nofun, fun _ _ => nofun, fun _ _ => rfl⟩
        | cons first rest =>
            refine ⟨rfl, fun node is => ?_, nofun, nofun⟩
            cases is
            rfl
  | @within target parent parents inside found each =>
      cases parents with
      | nil =>
          refine ⟨⟨none, none⟩, ?_, ⟨rfl, nofun, fun _ _ => nofun, fun _ _ => rfl⟩⟩
          rw [Lookup.find, Lookup.consult_onward found]
          rfl
      | cons outer rest =>
          refine ⟨⟨some outer, (inside outer).head?⟩, ?_, ?_⟩
          · rw [Lookup.find, Lookup.consult_onward found]
            exact Lookup.consult_onward (each outer List.mem_cons_self)
          · rw [List.flatMap_cons]
            cases here : inside outer with
            | cons first others =>
                refine ⟨rfl, fun node is => ?_, nofun, nofun⟩
                cases is
                rfl
            | nil =>
                refine ⟨rfl, nofun, fun _ pair member same => ?_, nofun⟩
                obtain ⟨other, later, among⟩ := List.mem_flatMap.mp member
                obtain ⟨node, -, rfl⟩ := List.mem_map.mp among
                obtain rfl : other = outer := Option.some.inj same
                exact (List.nodup_cons.mp (found.nodup distinct)).1 later

end Matcher.Lists

namespace Lookup

theorem inside_of_findInEach {target : ElementQuery} {parents : List NodeId} {pairs : List Resolved}
    (found : (findInEach target parents).run.consult page = some (.ok pairs)) :
    (∀ outer ∈ parents, target.Finds page (.node outer) (target.described page (.node outer))) ∧
      pairs = parents.flatMap fun outer => (target.described page (.node outer)).map fun node =>
        ⟨some outer, some node⟩ := by
  induction parents generalizing pairs with
  | nil =>
      cases found
      exact ⟨nofun, rfl⟩
  | cons parent rest ih =>
      obtain ⟨targets, here, onward⟩ := consult_split found
      obtain ⟨others, there, both⟩ := consult_split onward
      obtain ⟨each, rfl⟩ := ih there
      obtain rfl := ElementQuery.Finds.eq here
      cases both
      exact ⟨List.forall_mem_cons.mpr ⟨here, each⟩, rfl⟩

theorem lists_of_findAll {matcher : Matcher} {pairs : List Resolved}
    (found : (findAll matcher scope).run.consult page = some (.ok pairs)) :
    ∃ parents, matcher.Lists page scope parents pairs := by
  obtain ⟨target, parent⟩ := matcher
  cases parent with
  | none =>
      obtain ⟨nodes, finds, same⟩ := consult_split found
      cases same
      exact ⟨[], .alone finds⟩
  | some parent =>
      obtain ⟨parents, finds, onward⟩ := consult_split found
      obtain ⟨each, rfl⟩ := inside_of_findInEach onward
      exact ⟨parents, .within finds each⟩

/-- Where the lookup for one match fails, so does the one for all. -/
theorem findAll_of_find_failed {matcher : Matcher} {error : PageError}
    (failed : (find matcher scope).run.consult page = some (.error error)) :
    (findAll matcher scope).run.consult page = some (.error error) := by
  obtain ⟨target, parent⟩ := matcher
  cases parent with
  | none =>
      rw [find] at failed
      rcases consult_failed_split failed with first | ⟨nodes, -, ends⟩
      · exact consult_failed first
      · cases ends
  | some parent =>
      rw [find] at failed
      rcases consult_failed_split failed with first | ⟨parents, first, onward⟩
      · exact consult_failed first
      · refine (consult_onward first).trans ?_
        cases parents with
        | nil => cases onward
        | cons outer rest =>
            -- What fails in the first parent is what the lookup for all matches begins with.
            rcases consult_failed_split onward with inside | ⟨nodes, -, ends⟩
            · exact consult_failed inside
            · cases ends

/-- On a page that does not change, where no selector describes an element twice, the lookups for one match and for
all agree.  Where all are found, these are the pairs of the matcher, each once, and the one is at their head; where
the lookup for one fails, the one for all fails in the same way.  On a snapshot both are over at once and change
nothing. -/
theorem find_leads_findAll (page : FixedPage) (distinct : page.IsDistinct) (matcher : Matcher) (scope : Scope) :
    ∃ one all, (find matcher scope).run.consult page = some one ∧
      (findAll matcher scope).run.consult page = some all ∧
      (∀ error, one = .error error → all = .error error) ∧
      (∀ pairs, all = .ok pairs → ∃ first parents, one = .ok first ∧
        matcher.Lists page scope parents pairs ∧ pairs.Nodup ∧ first.Leads parents pairs) ∧
      ∀ world : World, page = .ofSnapshot world.page →
        (find matcher scope).run.run world = (.done one, world) ∧
          (findAll matcher scope).run.run world = (.done all, world) := by
  have lookOne := (Strict.find matcher scope).isGlance
  have lookAll := (Strict.findAll matcher scope).isGlance
  obtain ⟨one, isOne⟩ := lookOne.comes page
  obtain ⟨all, isAll⟩ := lookAll.comes page
  refine ⟨one, all, isOne, isAll, ?_, ?_, ?_⟩
  · rintro error rfl
    exact Option.some.inj (isAll.symm.trans (findAll_of_find_failed isOne))
  · rintro pairs rfl
    obtain ⟨parents, lists⟩ := lists_of_findAll isAll
    obtain ⟨first, isFirst, leads⟩ := lists.leads distinct
    exact ⟨first, parents, Option.some.inj (isOne.symm.trans isFirst), lists, lists.nodup distinct, leads⟩
  · rintro world rfl
    exact ⟨lookOne.run isOne, lookAll.run isAll⟩

end Lookup

/-! ## Snapshots -/

namespace Markup.Document

theorem insertByRank_perm (document : Document) (place : Nat) (places : List Nat) :
    (document.insertByRank place places).Perm (place :: places) := by
  induction places with
  | nil => exact .refl _
  | cons other rest ih =>
      rw [insertByRank]
      split
      · exact .refl _
      · exact (ih.cons other).trans (.swap place other rest)

theorem placesByRank_perm (document : Document) : document.placesByRank.Perm document.places := by
  rw [placesByRank]
  induction document.places with
  | nil => exact .refl _
  | cons place rest ih => exact (document.insertByRank_perm place _).trans (ih.cons place)

end Markup.Document

/-- No selector describes an element of a snapshot twice. -/
theorem Snapshot.isDistinct (page : Snapshot) : (FixedPage.ofSnapshot page).IsDistinct := by
  have places : page.document.places.Nodup := List.nodup_range
  have byRank : page.document.placesByRank.Nodup := page.document.placesByRank_perm.nodup_iff.mpr places
  intro scope selector nodes reply
  have replies : (page.perform (.queryAll scope selector)).1 = .ok nodes := reply
  rw [perform] at replies
  split at replies
  · cases replies
  · have found : page.query scope selector = .ok nodes := replies
    rw [query] at found
    split at found
    · cases found
    · cases scope with
      | document =>
          cases found
          exact (byRank.filter _).filter _
      | node node =>
          dsimp only at found
          cases live : page.live node with
          | error error =>
              rw [live] at found
              cases found
          | ok element =>
              rw [live] at found
              cases found
              exact (places.filter _).filter _

/-- The first of three paragraphs holds no button.  So the first match has no target, and all matches are those in
the other two. -/
theorem Lookup.find_leads_findAll_paragraphs :
    let page := FixedPage.ofSnapshot (.ofText "<p>a</p><p><button></button><button></button></p><p><button></button>")
    let matcher : Matcher := ⟨.css "button", some (.css "p")⟩
    let pairs : List Resolved := [⟨some 4, some 5⟩, ⟨some 4, some 6⟩, ⟨some 7, some 8⟩]
    page.IsDistinct ∧ (find matcher .document).run.consult page = some (.ok ⟨some 3, none⟩) ∧
      (findAll matcher .document).run.consult page = some (.ok pairs) ∧
      ∃ parents, matcher.Lists page .document parents pairs ∧ Resolved.Leads ⟨some 3, none⟩ parents pairs := by
  intro page matcher pairs
  have distinct : page.IsDistinct := Snapshot.isDistinct _
  have first : (find matcher .document).run.consult page = some (.ok ⟨some 3, none⟩) := by decide +kernel
  have listed : (findAll matcher .document).run.consult page = some (.ok pairs) := by decide +kernel
  obtain ⟨one, all, isOne, isAll, -, agree, -⟩ := find_leads_findAll page distinct matcher .document
  obtain ⟨head, parents, isHead, lists, -, leads⟩ := agree pairs (Option.some.inj (isAll.symm.trans listed))
  have same : head = ⟨some 3, none⟩ :=
    Except.ok.inj (isHead.symm.trans (Option.some.inj (isOne.symm.trans first)))
  exact ⟨distinct, first, listed, parents, lists, same ▸ leads⟩

end ConsentBanner

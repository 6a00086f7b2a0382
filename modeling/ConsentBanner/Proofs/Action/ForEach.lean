import ConsentBanner.Proofs.Page.Boxes
import ConsentBanner.Proofs.Page.Order
import ConsentBanner.Proofs.Query.Pairs
import ConsentBanner.Proofs.Rehearsal.Polling

/-!
# Loops

A loop looks up its targets when it begins, and then does its action in each of them, one after the other.  There is
one round for each pair of a parent and a target in it (`Action.forEach_rounds`).  So a target that stands in several
parents has several rounds, which is possible only if these parents stand inside one another
(`Action.forEach_nested`).
-/

set_option autoImplicit false

namespace ConsentBanner

open Rehearsal (comesTo_bind comesTo_done comesTo_done_iff comesTo_of_run)

/-! ## The targets of a loop -/

/-- The targets of a matcher, parent by parent; without a query for parents, those where the lookup starts. -/
def Matcher.targets (page : FixedPage) : Matcher → Scope → List NodeId
  | ⟨target, none⟩, scope => target.described page scope
  | ⟨target, some parent⟩, scope =>
    (parent.described page scope).flatMap fun outer => target.described page (.node outer)

theorem Matcher.Lists.targets {page : FixedPage} {scope : Scope} {matcher : Matcher} {parents : List NodeId}
    {pairs : List Resolved} (lists : matcher.Lists page scope parents pairs) :
    pairs.filterMap Resolved.target = matcher.targets page scope := by
  have all : ∀ (parent : Option NodeId) (nodes : List NodeId),
      (nodes.map fun node => (⟨parent, some node⟩ : Resolved)).filterMap Resolved.target = nodes := by
    intro parent nodes
    rw [List.filterMap_map]
    exact List.filterMap_some
  cases lists with
  | alone found => rw [Matcher.targets, all, found.eq]
  | within found each =>
      rw [Matcher.targets, List.filterMap_flatMap, found.eq]
      refine List.flatMap_congr fun outer member => ?_
      rw [all, (each outer (found.eq ▸ member)).eq]

/-- A list that is joined of lists without duplicates has a member as often as there are such lists with it. -/
theorem count_flatMap_of_nodup {inside : NodeId → List NodeId} (distinct : ∀ outer, (inside outer).Nodup)
    (node : NodeId) (parents : List NodeId) :
    (parents.flatMap inside).count node = parents.countP fun outer => decide (node ∈ inside outer) := by
  induction parents with
  | nil => rfl
  | cons outer rest ih =>
      rw [List.flatMap_cons, List.count_append, ih, List.countP_cons, (distinct outer).count, Nat.add_comm]
      simp only [decide_eq_true_eq]

/-- What stands inside two elements stands inside the inner one of them. -/
theorem Markup.Document.Below.nested {document : Markup.Document} {node one other : Nat}
    (inOne : document.Below node one) (inOther : document.Below node other) :
    one = other ∨ document.Below one other ∨ document.Below other one := by
  have unique : Relator.RightUnique document.IsChild := by
    rintro inner outer other ⟨element, isElement, isOuter⟩ ⟨again, isAgain, isOther⟩
    obtain rfl : element = again := Option.some.inj (isElement.symm.trans isAgain)
    exact Option.some.inj (isOuter.symm.trans isOther)
  rcases Relation.ReflTransGen.total_of_right_unique unique inOne.to_reflTransGen inOther.to_reflTransGen with
    oneInOther | otherInOne
  · exact (Relation.reflTransGen_iff_eq_or_transGen.mp oneInOther).imp Eq.symm .inl
  · exact (Relation.reflTransGen_iff_eq_or_transGen.mp otherInOne).imp id .inr

/-- What a query describes inside an element of a snapshot stands inside it. -/
theorem Snapshot.below_of_described {page : Snapshot} {query : ElementQuery} {outer node : NodeId}
    (member : node ∈ query.described (.ofSnapshot page) (.node outer)) : page.document.Below node outer := by
  obtain ⟨found, -⟩ := List.mem_filter.mp member
  change node ∈ Primitive.orElse (page.perform (.queryAll (.node outer) query.selector)).1 [] at found
  rw [perform] at found
  split at found
  next => cases found
  next =>
    change node ∈ Primitive.orElse (page.query (.node outer) query.selector) [] at found
    cases answer : page.query (.node outer) query.selector with
    | ok nodes => exact (query_node answer node (by rwa [answer] at found)).1
    | error error =>
        rw [answer] at found
        cases found

/-- Where no parent stands inside another one, the targets in them are different. -/
theorem Matcher.nodup_targets {page : Snapshot} {scope : Scope} {target parent : ElementQuery}
    (apart : ∀ one ∈ parent.described (.ofSnapshot page) scope, ∀ other ∈ parent.described (.ofSnapshot page) scope,
      ¬page.document.Below one other) :
    (Matcher.targets (.ofSnapshot page) ⟨target, some parent⟩ scope).Nodup := by
  rw [Matcher.targets, List.nodup_flatMap]
  refine ⟨fun outer _ => target.nodup_described (.node outer) page.isDistinct, ?_⟩
  refine (parent.nodup_described scope page.isDistinct).pairwise_of_forall_ne fun one isOne other isOther differ => ?_
  intro node inOne inOther
  rcases (Snapshot.below_of_described inOne).nested (Snapshot.below_of_described inOther) with same | below | below
  · exact differ same
  · exact apart one isOne other isOther below
  · exact apart other isOther one isOne below

/-! ## The rounds of a loop -/

/-- Something is done in one element after the other, each time to its end.  A failure ends it all. -/
inductive Rehearsal.Processes (run : Scope → Deed Unit) :
    List NodeId → Rehearsal → Except ConsentError Unit → Rehearsal → Prop where
  | nil (rehearsal : Rehearsal) : Processes run [] rehearsal (.ok ()) rehearsal
  | cons {node : NodeId} {nodes : List NodeId} {rehearsal middle last : Rehearsal} {outcome : Except ConsentError Unit}
      (round : rehearsal.ComesTo (run (.node node)).run (.ok ()) middle)
      (rest : Processes run nodes middle outcome last) : Processes run (node :: nodes) rehearsal outcome last
  | failed {node : NodeId} {nodes : List NodeId} {rehearsal last : Rehearsal} {error : ConsentError}
      (round : rehearsal.ComesTo (run (.node node)).run (.error error) last) :
      Processes run (node :: nodes) rehearsal (.error error) last

theorem Rehearsal.comesTo_inEach {run : Scope → Deed Unit} {nodes : List NodeId} {rehearsal last : Rehearsal}
    {outcome : Except ConsentError Unit} :
    rehearsal.ComesTo (inEach run nodes).run outcome last ↔ Processes run nodes rehearsal outcome last := by
  induction nodes generalizing rehearsal with
  | nil =>
      constructor
      · intro comes
        obtain ⟨rfl, rfl⟩ := comesTo_done_iff.mp comes
        exact .nil last
      · rintro ⟨⟩
        exact comesTo_done
  | cons node rest ih =>
      constructor
      · intro comes
        obtain ⟨value, middle, round, onward⟩ := comesTo_bind.mp comes
        cases value with
        | ok nothing => exact .cons round (ih.mp onward)
        | error error =>
            obtain ⟨rfl, rfl⟩ := comesTo_done_iff.mp onward
            exact .failed round
      · rintro (⟨⟩ | ⟨round, others⟩ | ⟨round⟩)
        · exact comesTo_bind.mpr ⟨_, _, round, ih.mpr others⟩
        · exact comesTo_bind.mpr ⟨_, _, round, comesTo_done⟩

/-- What a loop comes to is settled by its lookup, on the page as it is when the loop begins.  If the lookup fails,
nothing is done.  If not, the action is done in each target of the matcher in order, each time to its end before the
next one begins; it is over when it fails, or when there are no more targets.  Without a query for parents every
target is another element.  With one, an element is a target for each parent that it is found in, so that no
element is a target twice if no parent stands inside another one. -/
theorem Action.forEach_rounds (timings : Timings) (matcher : Matcher) (inner : Action) (consents : List Category)
    (scope : Scope) (rehearsal : Rehearsal) :
    let page := FixedPage.ofSnapshot rehearsal.world.page
    let loop := ((Action.forEach matcher inner).run timings consents scope).run
    let targets := matcher.targets page scope
    ((∃ error, (Lookup.findAll matcher scope).run.consult page = some (.error error) ∧
        rehearsal.ComesTo loop (.error (.ofPage error)) rehearsal) ∨
      ∃ pairs parents, (Lookup.findAll matcher scope).run.consult page = some (.ok pairs) ∧
        matcher.Lists page scope parents pairs ∧ pairs.Nodup ∧ pairs.filterMap Resolved.target = targets ∧
        ∀ outcome last, rehearsal.ComesTo loop outcome last ↔
          Rehearsal.Processes (fun inside => inner.run timings consents inside) targets rehearsal outcome last) ∧
      (matcher.parent = none → targets.Nodup) ∧
      ∀ parent, matcher.parent = some parent →
        (∀ node, targets.count node = (parent.described page scope).countP
          fun outer => decide (node ∈ matcher.target.described page (.node outer))) ∧
        ((∀ one ∈ parent.described page scope, ∀ other ∈ parent.described page scope,
          ¬rehearsal.world.page.document.Below one other) → targets.Nodup) := by
  intro page loop targets
  have distinct : page.IsDistinct := rehearsal.world.page.isDistinct
  refine ⟨?_, ?_, ?_⟩
  · have looks := (Lookup.Strict.findAll matcher scope).isGlance
    obtain ⟨reply, comes⟩ := looks.comes page
    have looked : rehearsal.ComesTo (Deed.look (Lookup.findAll matcher scope)).run (reply.mapError .ofPage)
        rehearsal := comesTo_bind.mpr ⟨reply, rehearsal, comesTo_of_run (looks.run comes), comesTo_done⟩
    have isLoop : loop = ((Deed.look (Lookup.findAll matcher scope)) >>= fun found =>
        inEach (fun inside => inner.run timings consents inside) (found.filterMap Resolved.target)).run := by
      simp only [loop, Action.run]
    cases reply with
    | error error =>
        refine .inl ⟨error, comes, ?_⟩
        rw [isLoop]
        exact comesTo_bind.mpr ⟨_, _, looked, comesTo_done⟩
    | ok pairs =>
        obtain ⟨parents, lists⟩ := Lookup.lists_of_findAll comes
        refine .inr ⟨pairs, parents, comes, lists, lists.nodup distinct, lists.targets, fun outcome last => ?_⟩
        rw [isLoop, ← Rehearsal.comesTo_inEach]
        simp only [targets, ← lists.targets]
        exact looked.onward
  · obtain ⟨target, parent⟩ := matcher
    rintro rfl
    exact target.nodup_described scope distinct
  · obtain ⟨target, parent⟩ := matcher
    rintro parent rfl
    exact ⟨fun node => count_flatMap_of_nodup (fun outer => target.nodup_described (.node outer) distinct) node _,
      Matcher.nodup_targets⟩

/-- A label with a box in each of two containers, which stand side by side: each box is clicked once. -/
theorem Action.forEach_rounds_apart :
    let page := Snapshot.ofText "<div><label><input type=checkbox></label></div><div><label><input type=checkbox>"
    let matcher : Matcher := ⟨.css "label", some (.css "div")⟩
    let inner := Action.click (.css "input")
    let start := Rehearsal.start (.start page) [] [] true
    (matcher.targets (.ofSnapshot page) .document).Nodup ∧ ∃ last,
      Rehearsal.Processes (fun inside => inner.run .usual [] inside) [4, 7] start (.ok ()) last ∧
        last.world.page.clicks = [5, 8] := by
  intro page matcher inner start
  obtain ⟨found | ⟨pairs, parents, -, -, -, -, rounds⟩, -, counted⟩ :=
    forEach_rounds .usual matcher inner [] .document start
  · obtain ⟨error, fails, -⟩ := found
    have succeeds : ((Lookup.findAll matcher .document).run.consult (.ofSnapshot start.world.page)).any
        Except.isOk = true := by decide +kernel
    rw [fails] at succeeds
    cases succeeds
  · have ordered : page.document.IsOrdered := Markup.Document.isOrdered_ofText _
    obtain ⟨parents, targets, known, beside, settles⟩ :
        (ElementQuery.css "div").described (.ofSnapshot page) .document = [3, 6] ∧
          matcher.targets (.ofSnapshot page) .document = [4, 7] ∧
          (∀ node ∈ [3, 6], (page.document.element? node).isSome = true) ∧ 3 ∉ page.document.lineage 6 ∧
          (((Action.forEach matcher inner).run .usual [] .document).run.settle page).map
            (fun settled => (settled.value.isOk, settled.page.clicks)) = some (true, [5, 8]) := by decide +kernel
    have apart : ∀ one ∈ [3, 6], ∀ other ∈ [3, 6], ¬page.document.Below one other := by
      intro one isOne other isOther below
      have around := (ordered.mem_lineage (known one isOne)).mpr (.inr below)
      have before := ordered.lt below
      simp only [List.mem_cons, List.not_mem_nil, or_false] at isOne isOther
      rcases isOne with rfl | rfl <;> rcases isOther with rfl | rfl
      · exact absurd before (Nat.lt_irrefl 3)
      · exact absurd before (by decide)
      · exact beside around
      · exact absurd before (Nat.lt_irrefl 6)
    have nodup := (counted (.css "div") rfl).2 (parents ▸ apart)
    obtain ⟨⟨value, time, after⟩, isSettled, same⟩ := Option.map_eq_some_iff.mp settles
    cases value with
    | error error => cases same
    | ok nothing =>
        have calm : start.IsCalm := ⟨rfl, rfl⟩
        obtain ⟨order, comes⟩ := calm.play _ isSettled
        exact ⟨nodup, _, targets ▸ (rounds _ _).mp comes, (Prod.mk.inj same).2⟩

/-- A label with a box in a container that stands in another one: it is found in both, and the box is clicked twice
and ends as it was. -/
theorem Action.forEach_nested :
    let page := Snapshot.ofText "<div><div><label><input type=checkbox></label></div></div>"
    let matcher : Matcher := ⟨.css "label", some (.css "div")⟩
    let loop := Action.forEach matcher (.click (.css "input"))
    matcher.targets (.ofSnapshot page) .document = [5, 5] ∧ page.isOn 6 = false ∧ ∃ last,
      (Rehearsal.start (.start page) [] [] true).ComesTo (loop.run .usual [] .document).run (.ok ()) last ∧
        last.world.page.clicks = [6, 6] ∧ last.world.page.isOn 6 = false := by
  intro page matcher loop
  obtain ⟨targets, off, settles⟩ : matcher.targets (.ofSnapshot page) .document = [5, 5] ∧ page.isOn 6 = false ∧
      ((loop.run .usual [] .document).run.settle page).map
        (fun settled => (settled.value.isOk, settled.page.clicks, settled.page.isOn 6)) =
          some (true, [6, 6], false) := by decide +kernel
  obtain ⟨⟨value, time, after⟩, isSettled, same⟩ := Option.map_eq_some_iff.mp settles
  cases value with
  | error error => cases same
  | ok nothing =>
      have calm : (Rehearsal.start (.start page) [] [] true).IsCalm := ⟨rfl, rfl⟩
      obtain ⟨order, comes⟩ := calm.play _ isSettled
      exact ⟨targets, off, _, comes, Prod.mk.inj (Prod.mk.inj same).2⟩

end ConsentBanner

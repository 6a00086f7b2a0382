import ConsentBanner.Proofs.Action.Grounded
import ConsentBanner.Proofs.Page.Nesting
import Mathlib.Data.List.Induction

/-!
# What an action touches

An action that runs inside an element touches only what stands inside that element and belonged to the page when
it was found, whatever the page does in between: `Action.run_confined`.  Each round of a loop is confined to the
element of that round, and what follows in a list starts from the scope of the list again.
-/

set_option autoImplicit false

namespace ConsentBanner

open Flow (Steps)

/-- Where an exchange looks for elements. -/
def Exchange.start? : Exchange → Option Scope
  | ⟨.page call, _⟩ => call.start?
  | _ => none

/-- The element that an exchange clicks, marks or drags. -/
def Exchange.touched? : Exchange → Option NodeId
  | ⟨.page call, _⟩ => call.touched?
  | _ => none

/-- All lookups of a story start at a scope or at what the story has found, and it touches only what it has
found. -/
def Rooted (scope : Scope) (story : List Exchange) : Prop :=
  ∀ before exchange after, story = before ++ exchange :: after →
    (∀ start, exchange.start? = some start → start = scope ∨ ∃ node ∈ foundIn before, start = .node node) ∧
      ∀ node, exchange.touched? = some node → node ∈ foundIn before

/-- What is found inside an element stands inside it and belongs to the page at that moment.  A moment is told
by the part of the story before it. -/
def FindsInside (inside : NodeId → NodeId → Prop) (attached : List Exchange → NodeId → Prop)
    (story : List Exchange) : Prop :=
  ∀ before exchange after outer, story = before ++ exchange :: after → exchange.start? = some (.node outer) →
    ∀ node ∈ exchange.found, inside node outer ∧ attached before node

/-- An element was found at a moment at which it belonged to the page. -/
def FoundAttached (attached : List Exchange → NodeId → Prop) (story : List Exchange) (node : NodeId) : Prop :=
  ∃ before exchange after, story = before ++ exchange :: after ∧ node ∈ exchange.found ∧ attached before node

/-- Everything that a story touches stands inside an element and belonged to the page when it was found. -/
def TouchesInside (inside : NodeId → NodeId → Prop) (attached : List Exchange → NodeId → Prop) (outer : NodeId)
    (story : List Exchange) : Prop :=
  ∀ before exchange after node, story = before ++ exchange :: after → exchange.touched? = some node →
    inside node outer ∧ FoundAttached attached before node

/-! ## Rooted stories -/

theorem rooted_of_isGrounded {scope : Scope} {story : List Exchange}
    (grounded : IsGrounded scope.Reaches [] story) : Rooted scope story := by
  rintro before exchange after rfl
  obtain ⟨-, fits, -⟩ := isGrounded_append.mp grounded
  rw [List.nil_append] at fits
  obtain ⟨request, reply⟩ := exchange
  cases request with
  | page call =>
      have reaches : scope.Reaches (foundIn before) call := fits
      exact ⟨reaches.start, reaches.touched⟩
  | _ => exact absurd fits id

theorem Exchange.starts_of_found {exchange : Exchange} {node : NodeId} (found : node ∈ exchange.found) :
    ∃ start, exchange.start? = some start := by
  obtain ⟨request, reply⟩ := exchange
  cases request with
  | page call =>
      cases call with
      | queryAll start selector => exact ⟨start, rfl⟩
      | _ => cases found
  | _ => cases found

variable {inside : NodeId → NodeId → Prop} {attached : List Exchange → NodeId → Prop} {outer : NodeId}
  {story : List Exchange}

/-- What a rooted story has found stands inside, as each lookup starts inside or at the element itself. -/
theorem Rooted.found (rooted : Rooted (.node outer) story)
    (transitive : ∀ a b c, inside a b → inside b c → inside a c) (finds : FindsInside inside attached story)
    {node : NodeId} : ∀ (before after : List Exchange), story = before ++ after → node ∈ foundIn before →
      inside node outer ∧ FoundAttached attached before node := by
  intro before
  induction before using List.reverseRecOn generalizing node with
  | nil => exact fun _ _ found => nomatch found
  | append_singleton before exchange ih =>
      intro after split found
      rw [List.append_assoc] at split
      rw [foundIn_append, foundIn_cons, foundIn_nil, List.append_nil] at found
      rcases List.mem_append.mp found with earlier | here
      · obtain ⟨within, one, lookup, two, rfl, known⟩ := ih _ split earlier
        exact ⟨within, one, lookup, two ++ [exchange], by rw [List.append_assoc, List.cons_append], known⟩
      · obtain ⟨start, starts⟩ := Exchange.starts_of_found here
        have now : ∀ other, start = .node other → inside node other ∧ attached before node :=
          fun other is => finds before exchange after other split (is ▸ starts) node here
        have last : attached before node → FoundAttached attached (before ++ [exchange]) node :=
          fun belongs => ⟨before, exchange, [], rfl, here, belongs⟩
        rcases (rooted before exchange after split).1 start starts with is | ⟨middle, known, is⟩
        · exact ⟨(now outer is).1, last (now outer is).2⟩
        · have between := (ih _ split known).1
          exact ⟨transitive node middle outer (now middle is).1 between, last (now middle is).2⟩

theorem Rooted.touchesInside (rooted : Rooted (.node outer) story)
    (transitive : ∀ a b c, inside a b → inside b c → inside a c) (finds : FindsInside inside attached story) :
    TouchesInside inside attached outer story := by
  intro before exchange after node split touched
  exact rooted.found transitive finds before (exchange :: after) split
    ((rooted before exchange after split).2 node touched)

/-! ## Loops -/

/-- The rounds of something that is done in each of some elements, one after the other.  A round that fails is
the last one, and so is one that is still going on. -/
inductive Rounds (run : Scope → Deed Unit) : List NodeId → List (NodeId × List Exchange) → Prop where
  | nil (nodes : List NodeId) : Rounds run nodes []
  | last {node : NodeId} {nodes : List NodeId} {story : List Exchange} {moved : Flow (Except ConsentError Unit)}
      (round : Steps (run (.node node)).run story moved) : Rounds run (node :: nodes) [(node, story)]
  | cons {node : NodeId} {nodes : List NodeId} {story : List Exchange} {rounds : List (NodeId × List Exchange)}
      (round : Steps (run (.node node)).run story (.done (.ok ()))) (rest : Rounds run nodes rounds) :
      Rounds run (node :: nodes) ((node, story) :: rounds)

/-- The story of a loop is that of a lookup, which touches nothing, and those of rounds in what it found. -/
structure Loops (timings : Timings) (matcher : Matcher) (inner : Action) (consents : List Category) (scope : Scope)
    (story looked : List Exchange) (rounds : List (NodeId × List Exchange)) : Prop where
  whole : story = looked ++ rounds.flatMap Prod.snd
  untouched : ∀ exchange ∈ looked, exchange.touched? = none
  rounds : rounds = [] ∨ ∃ found, Steps (Deed.look (Lookup.findAll matcher scope)).run looked (.done (.ok found)) ∧
    Rounds (fun inside => inner.run timings consents inside) (found.filterMap Resolved.target) rounds

theorem rounds_of_inEach {run : Scope → Deed Unit} {nodes : List NodeId} {story : List Exchange}
    {after : Flow (Except ConsentError Unit)} (steps : Steps (inEach run nodes).run story after) :
    ∃ rounds, Rounds run nodes rounds ∧ story = rounds.flatMap Prod.snd := by
  induction nodes generalizing story with
  | nil => exact ⟨[], .nil _, (Steps.ofDone steps).2⟩
  | cons node rest ih =>
      rcases Steps.ofBind steps with ⟨moved, -, round, -⟩ | ⟨outcome, one, two, round, onward, rfl⟩
      · exact ⟨[(node, story)], .last round, by simp⟩
      · cases outcome with
        | error error =>
            obtain ⟨-, rfl⟩ := Steps.ofDone onward
            exact ⟨[(node, one)], .last round, by simp⟩
        | ok value =>
            obtain ⟨rounds, others, rfl⟩ := ih onward
            exact ⟨(node, one) :: rounds, .cons round others, rfl⟩

theorem Rounds.steps {run : Scope → Deed Unit} {nodes : List NodeId} {rounds : List (NodeId × List Exchange)}
    (all : Rounds run nodes rounds) {node : NodeId} {own : List Exchange} (member : (node, own) ∈ rounds) :
    ∃ moved, Steps (run (.node node)).run own moved := by
  induction all with
  | nil => cases member
  | last round =>
      cases List.mem_singleton.mp member
      exact ⟨_, round⟩
  | cons round _ ih =>
      rcases List.mem_cons.mp member with is | later
      · cases is
        exact ⟨_, round⟩
      · exact ih later

/-- What is found in a part of a story is found inside as well. -/
theorem FindsInside.part {front own back : List Exchange} (finds : FindsInside inside attached (front ++ own ++ back)) :
    FindsInside inside (fun told => attached (front ++ told)) own := by
  intro before exchange after outer split starts
  refine finds (front ++ before) exchange (after ++ back) outer ?_ starts
  rw [split]
  simp

theorem untouched_of_looks {α : Type} {good : α → List NodeId → Prop} {scope : Scope} {lookup : Lookup α}
    {after : Flow (Except ConsentError α)} (looks : ∀ known, Flow.Grounded.Looks scope good known lookup)
    (steps : Steps (Deed.look lookup).run story after) : ∀ exchange ∈ story, exchange.touched? = none := by
  have grounded : Flow.Grounded scope.Sees (fun _ _ => True) [] (Deed.look lookup).run :=
    Flow.Grounded.bind (looks []) fun _ _ _ _ => .done trivial
  intro exchange member
  obtain ⟨before, after, rfl⟩ := List.append_of_mem member
  obtain ⟨-, fits, -⟩ := isGrounded_append.mp (steps.grounded grounded).1
  obtain ⟨request, reply⟩ := exchange
  cases request with
  | page call =>
      have isLook : call.IsLook := fits.1
      cases call with
      | click node => exact isLook.elim
      | addClass node name => exact isLook.elim
      | dispatchMouse node kind x y => exact isLook.elim
      | _ => rfl
  | _ => rfl

variable {timings : Timings} {matcher : Matcher} {inner : Action} {consents : List Category} {scope : Scope}

theorem loops_of_forEach {after : Flow (Except ConsentError Unit)}
    (steps : Steps ((Action.forEach matcher inner).run timings consents scope).run story after) :
    ∃ looked rounds, Loops timings matcher inner consents scope story looked rounds := by
  have looks := fun known => @Flow.Grounded.findAll known scope matcher
  rw [Action.run] at steps
  rcases Steps.ofBind steps with ⟨moved, -, looking, -⟩ | ⟨outcome, looked, onward, looking, rest, rfl⟩
  · exact ⟨story, [], (List.append_nil story).symm, untouched_of_looks looks looking, .inl rfl⟩
  · cases outcome with
    | error error =>
        obtain ⟨-, rfl⟩ := Steps.ofDone rest
        exact ⟨looked, [], rfl, untouched_of_looks looks looking, .inl rfl⟩
    | ok found =>
        obtain ⟨rounds, rounds', rfl⟩ := rounds_of_inEach rest
        exact ⟨looked, rounds, rfl, untouched_of_looks looks looking, .inr ⟨found, looking, rounds'⟩⟩

/-! ## What follows -/

/-- What follows on something starts afresh, from the scope that it is run at. -/
def FollowsAfresh (scope : Scope) (whole front back : Scope → Deed Unit) : Prop :=
  ∀ story after, Steps (whole scope).run story after →
    (∃ moved, Steps (front scope).run story moved) ∨
      ∃ own others, story = own ++ others ∧ Steps (front scope).run own (.done (.ok ())) ∧
        Steps (back scope).run others after ∧ Rooted scope others

theorem followsAfresh {whole front back : Scope → Deed Unit} (is : whole scope = front scope >>= fun _ => back scope)
    (stays : Flow.Grounded.Stays scope Flow.Grounded.Any [] (back scope)) :
    FollowsAfresh scope whole front back := by
  intro story after steps
  rw [is] at steps
  rcases Steps.ofBind steps with ⟨moved, -, within, -⟩ | ⟨outcome, own, others, first, onward, rfl⟩
  · exact .inl ⟨moved, within⟩
  · cases outcome with
    | error error =>
        obtain ⟨-, rfl⟩ := Steps.ofDone onward
        exact .inl ⟨_, (List.append_nil own).symm ▸ first⟩
    | ok value => exact .inr ⟨own, others, rfl, first, onward, rooted_of_isGrounded (onward.grounded stays).1⟩

/-! ## Pages -/

namespace Snapshot

/-- A page replies to calls, each at some moment, and anything may happen to it between them. -/
inductive Hosts : Snapshot → List (Snapshot × Exchange) → Prop where
  | nil (page : Snapshot) : Hosts page []
  | cons {page moment : Snapshot} {α : Type} {record : List (Snapshot × Exchange)} (call : PageCall α)
      (meanwhile : page.Leads moment) (rest : Hosts (moment.perform call).2 record) :
      Hosts page ((moment, ⟨.page call, (moment.perform call).1⟩) :: record)

/-- An element belonged to the page at a moment of a record. -/
def AttachedIn (record : List (Snapshot × Exchange)) (told : List Exchange) (node : NodeId) : Prop :=
  ∃ moment, record[told.length]? = some moment ∧ moment.1.isAttached node = true

theorem Hosts.moment {page moment : Snapshot} {record before after : List (Snapshot × Exchange)}
    {exchange : Exchange} (hosts : page.Hosts record) (split : record = before ++ (moment, exchange) :: after) :
    moment.document = page.document ∧
      ∃ (α : Type) (call : PageCall α), exchange = ⟨.page call, (moment.perform call).1⟩ := by
  induction hosts generalizing before with
  | nil => exact absurd split.symm (List.append_ne_nil_of_right_ne_nil before (List.cons_ne_nil _ after))
  | cons call meanwhile _ ih =>
      cases before with
      | nil =>
          obtain ⟨is, rfl⟩ := List.cons.inj split
          cases is
          exact ⟨meanwhile.document, _, call, rfl⟩
      | cons head before =>
          obtain ⟨-, within⟩ := List.cons.inj split
          obtain ⟨same, isCall⟩ := ih within
          exact ⟨same.trans ((document_perform _ call).trans meanwhile.document), isCall⟩

/-- Whatever happens to a page, what it finds inside an element stands inside it and belongs to the page. -/
theorem Hosts.findsInside {page : Snapshot} {record : List (Snapshot × Exchange)} (hosts : page.Hosts record) :
    FindsInside page.document.Below (AttachedIn record) (record.map Prod.snd) := by
  intro before exchange after outer split starts node found
  obtain ⟨earlier, rest, isRecord, isBefore, isRest⟩ := List.map_eq_append_iff.mp split
  obtain ⟨⟨moment, exchange'⟩, later, rfl, rfl, -⟩ := List.map_eq_cons_iff.mp isRest
  obtain ⟨same, kind, call, rfl⟩ := hosts.moment isRecord
  have here : record[before.length]? = some (moment, ⟨.page call, (moment.perform call).1⟩) := by
    rw [← isBefore, List.length_map, isRecord]
    simp
  cases call with
  | queryAll start selector =>
      obtain rfl : start = .node outer := Option.some.inj starts
      have replied : ∃ nodes, moment.query (.node outer) selector = .ok nodes ∧ node ∈ nodes := by
        simp only [Exchange.found, perform] at found
        split at found
        · cases found
        · rw [reply] at found
          cases answer : moment.query (.node outer) selector with
          | ok nodes => exact ⟨nodes, rfl, by simpa [answer, PageCall.found] using found⟩
          | error error => simp [answer, PageCall.found] at found
      obtain ⟨nodes, answer, member⟩ := replied
      obtain ⟨below, attached⟩ := query_node answer node member
      exact ⟨same ▸ below, _, here, attached⟩
  | _ => cases starts

end Snapshot

/-- What actions do stays where they are run, whatever they are made of and whatever the page does. -/
structure ActionsConfined (timings : Timings) : Prop where
  /-- All lookups start at the scope or inside what was found, and only what was found is touched. -/
  rooted : ∀ (action : Action) consents scope story after,
    Steps (action.run timings consents scope).run story after → Rooted scope story
  touches : ∀ (action : Action) consents outer story after (inside : NodeId → NodeId → Prop) attached,
    (∀ a b c, inside a b → inside b c → inside a c) → FindsInside inside attached story →
    Steps (action.run timings consents (.node outer)).run story after → TouchesInside inside attached outer story
  /-- A loop touches things only in its rounds, and each round only what stands inside its element. -/
  loops : ∀ matcher inner consents scope story after,
    Steps ((Action.forEach matcher inner).run timings consents scope).run story after →
    ∃ looked rounds, Loops timings matcher inner consents scope story looked rounds ∧
      ∀ (inside : NodeId → NodeId → Prop) attached, (∀ a b c, inside a b → inside b c → inside a c) →
        FindsInside inside attached story → ∀ front node own back, rounds = front ++ (node, own) :: back →
          TouchesInside inside (fun told => attached (looked ++ front.flatMap Prod.snd ++ told)) node own
  /-- What follows on a loop, or on anything else, starts from the scope of the whole again. -/
  afterActions : ∀ front back consents scope, FollowsAfresh scope
    ((Action.list (front ++ back)).run timings consents) ((Action.list front).run timings consents)
    ((Action.list back).run timings consents)
  afterRules : ∀ front back consents scope, FollowsAfresh scope
    ((Action.consent (front ++ back)).run timings consents) ((Action.consent front).run timings consents)
    ((Action.consent back).run timings consents)
  /-- Pages find inside an element what stands inside it and belongs to the page, whatever happens to them. -/
  pages : ∀ (page : Snapshot) record, page.Hosts record →
    (∀ a b c, page.document.Below a b → page.document.Below b c → page.document.Below a c) ∧
      FindsInside page.document.Below (Snapshot.AttachedIn record) (record.map Prod.snd)

theorem rooted_run (timings : Timings) {action : Action} {consents : List Category} {scope : Scope}
    {story : List Exchange} {after : Flow (Except ConsentError Unit)}
    (steps : Steps (action.run timings consents scope).run story after) : Rooted scope story :=
  rooted_of_isGrounded (steps.grounded (Flow.Grounded.action action consents scope [])).1

theorem Action.run_confined (timings : Timings) : ActionsConfined timings where
  rooted _ _ _ _ _ steps := rooted_run timings steps
  touches _ _ _ _ _ _ _ transitive finds steps := (rooted_run timings steps).touchesInside transitive finds
  loops matcher inner consents scope story after steps := by
    obtain ⟨looked, rounds, loops⟩ := loops_of_forEach steps
    refine ⟨looked, rounds, loops, fun inside attached transitive finds front node own back split => ?_⟩
    have whole : story = looked ++ front.flatMap Prod.snd ++ own ++ back.flatMap Prod.snd := by
      rw [loops.whole, split]
      simp
    rcases loops.rounds with none | ⟨found, -, all⟩
    · exact absurd (split.symm.trans none) (List.append_ne_nil_of_right_ne_nil front (List.cons_ne_nil _ back))
    · obtain ⟨moved, round⟩ := all.steps (split ▸ List.mem_append_right front List.mem_cons_self)
      exact (rooted_run timings round).touchesInside transitive (whole ▸ finds).part
  afterActions front back consents scope := by
    refine followsAfresh ?_ (Flow.Grounded.action (.list back) consents scope [])
    rw [Action.run, Action.run, Action.run, runActions_append]
  afterRules front back consents scope := by
    refine followsAfresh ?_ (Flow.Grounded.action (.consent back) consents scope [])
    rw [Action.run, Action.run, Action.run, runConsentRules_append]
  pages page record hosts := ⟨fun _ _ _ => Relation.TransGen.trans, hosts.findsInside⟩

/-- A click inside a box, on a page of which the banner is gone in between. -/
theorem Action.run_confined_click :
    let page := Snapshot.ofText "<div><button>Reject</button></div><p id=\"banner\"></p>"
    let later := page.apply (.remove "#banner")
    let query : PageCall (List NodeId) := .queryAll (.node 3) "button"
    let record : List (Snapshot × Exchange) :=
      [(page, ⟨.page query, (page.perform query).1⟩), (later, ⟨.page (.click 4), (later.perform (.click 4)).1⟩)]
    page.Hosts record ∧ page.document.Below 4 3 := by
  intro page later query record
  have hosts : page.Hosts record :=
    .cons query (.refl page) (.cons (.click 4) (.effect (.remove "#banner") (.refl later)) (.nil _))
  have replied : (page.perform query).1 = .ok [4] := by decide +kernel
  have steps : ∃ after, Steps ((Action.click (.css "button")).run .usual [] (.node 3)).run
      [⟨.page query, .ok [4]⟩, ⟨.page (.click 4), (later.perform (.click 4)).1⟩] after :=
    ⟨_, .afterReply (.page query) (.ok [4]) (.afterReply (.page (.click 4)) _ (.refl _))⟩
  rw [← replied] at steps
  obtain ⟨after, steps⟩ := steps
  obtain ⟨transitive, finds⟩ := (Action.run_confined .usual).pages page record hosts
  have inside := (Action.run_confined .usual).touches _ _ _ _ _ _ _ transitive finds steps
  exact ⟨hosts, (inside [_] _ [] 4 rfl rfl).1⟩

end ConsentBanner

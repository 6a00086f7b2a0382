import ConsentBanner.Proofs.Flow.Consulted

/-!
# What queries describe

On a page that does not change, a query describes those elements of its selection that pass all filters at once
(`ElementQuery.described`), and a matcher the first target in the first parent.  Looking up elements filter by
filter comes to the same, so that a further filter can only take elements away (`Lookup.findElements_at_once`).
-/

set_option autoImplicit false

namespace ConsentBanner

mutual

def ElementQuery.admits (page : FixedPage) : ElementQuery → NodeId → Bool
  | ⟨_, text, styles, display, iframe, child⟩, node =>
    text.all (fun filter => filter.accepts (page.text node)) &&
    styles.all (fun filter => filter.accepts (page.style node filter.property)) &&
    display.all (fun wanted => (page.height node != 0.0) == wanted) &&
    iframe.all (fun wanted => (!page.isTop) == wanted) &&
    match child with
    | none => true
    | some matcher => (matcher.described page (.node node)).target.isSome

/-- What a matcher describes, where a lookup starts: the first target, in the first parent if there is a query
for one. -/
def Matcher.described (page : FixedPage) : Matcher → Scope → Resolved
  | ⟨target, none⟩, scope => ⟨none, (page.elements scope target.selector).find? (target.admits page)⟩
  | ⟨target, some parent⟩, scope =>
    match (page.elements scope parent.selector).find? (parent.admits page) with
    | none => ⟨none, none⟩
    | some first =>
      ⟨some first, (page.elements (.node first) target.selector).find? (target.admits page)⟩

end

namespace ElementQuery

theorem admits_eq (page : FixedPage) (selector : String) (text : Option TextFilter) (styles : List StyleFilter)
    (display iframe : Option Bool) (child : Option Matcher) (node : NodeId) :
    admits page ⟨selector, text, styles, display, iframe, child⟩ node =
      (text.all (fun filter => filter.accepts (page.text node)) &&
        styles.all (fun filter => filter.accepts (page.style node filter.property)) &&
        display.all (fun wanted => (page.height node != 0.0) == wanted) &&
        iframe.all (fun wanted => (!page.isTop) == wanted) &&
        child.all fun matcher => (matcher.described page (.node node)).target.isSome) := by
  cases child with
  | none | some matcher => rw [admits, Option.all]

/-- The elements that a query describes, where a lookup starts: those of its selection that pass all filters. -/
def described (page : FixedPage) (query : ElementQuery) (scope : Scope) : List NodeId :=
  (page.elements scope query.selector).filter (query.admits page)

inductive Adds : ElementQuery → ElementQuery → Prop where
  | text {selector styles display iframe child} (filter : TextFilter) :
      Adds ⟨selector, none, styles, display, iframe, child⟩ ⟨selector, some filter, styles, display, iframe, child⟩
  | style {selector text display iframe child} (before after : List StyleFilter) (filter : StyleFilter) :
      Adds ⟨selector, text, before ++ after, display, iframe, child⟩
        ⟨selector, text, before ++ filter :: after, display, iframe, child⟩
  | display {selector text styles iframe child} (wanted : Bool) :
      Adds ⟨selector, text, styles, none, iframe, child⟩ ⟨selector, text, styles, some wanted, iframe, child⟩
  | frame {selector text styles display child} (wanted : Bool) :
      Adds ⟨selector, text, styles, display, none, child⟩ ⟨selector, text, styles, display, some wanted, child⟩
  | child {selector text styles display iframe} (matcher : Matcher) :
      Adds ⟨selector, text, styles, display, iframe, none⟩ ⟨selector, text, styles, display, iframe, some matcher⟩

theorem Adds.narrows {query narrower : ElementQuery} (adds : query.Adds narrower) (page : FixedPage) :
    narrower.selector = query.selector ∧
      ∀ node, narrower.admits page node = true → query.admits page node = true := by
  cases adds with
  | text | style | display | frame | child =>
      refine ⟨rfl, fun node admitted => ?_⟩
      simp only [admits_eq, List.all_append, List.all_cons, Bool.and_eq_true] at admitted ⊢
      simp_all

theorem Adds.sublist {query narrower : ElementQuery} (adds : query.Adds narrower) (page : FixedPage)
    (scope : Scope) : (narrower.described page scope).Sublist (query.described page scope) := by
  obtain ⟨same, narrows⟩ := adds.narrows page
  rw [described, described, same]
  exact List.monotone_filter_right _ narrows

end ElementQuery

namespace Lookup.Gives

variable {page : FixedPage}

theorem passesStyles (node : NodeId) (filters : List StyleFilter) :
    Gives page (Lookup.passesStyles node filters)
      (filters.all fun filter => filter.accepts (page.style node filter.property)) := by
  induction filters with
  | nil => exact okay true
  | cons filter rest ih =>
      refine (call (.computedStyle node filter.property) none).chain ?_
      rw [List.all_cons, FixedPage.style]
      cases filter.accepts (Primitive.orElse (page.reply (.computedStyle node filter.property)) none) with
      | true => exact ih
      | false => exact okay false

theorem keepText (filter : Option TextFilter) (nodes : List NodeId) :
    Gives page (Lookup.keepText filter nodes)
      (nodes.filter fun node => filter.all fun filter => filter.accepts (page.text node)) := by
  cases filter with
  | none => simpa [Lookup.keepText] using okay nodes
  | some filter => exact keep nodes fun node => (call (.textContent node) "").map fun text => filter.accepts text

theorem keepStyled (filters : List StyleFilter) (nodes : List NodeId) :
    Gives page (Lookup.keepStyled filters nodes)
      (nodes.filter fun node => filters.all fun filter => filter.accepts (page.style node filter.property)) := by
  cases filters with
  | nil => simpa [Lookup.keepStyled] using okay nodes
  | cons filter rest => exact keep nodes fun node => passesStyles node (filter :: rest)

theorem keepDisplayed (wanted : Option Bool) (nodes : List NodeId) :
    Gives page (Lookup.keepDisplayed wanted nodes)
      (nodes.filter fun node => wanted.all fun wanted => (page.height node != 0.0) == wanted) := by
  cases wanted with
  | none => simpa [Lookup.keepDisplayed] using okay nodes
  | some wanted =>
      exact keep nodes fun node => (call (.offsetHeight node) 0.0).map fun height => (height != 0.0) == wanted

theorem keepFramed (wanted : Option Bool) (nodes : List NodeId) :
    Gives page (Lookup.keepFramed wanted nodes)
      (nodes.filter fun _ => wanted.all fun wanted => (!page.isTop) == wanted) := by
  cases wanted with
  | none => simpa [Lookup.keepFramed] using okay nodes
  | some wanted =>
      have asked : Gives page (Lookup.call .isTopFrame) page.isTop := call .isTopFrame true
      have framed := asked.map fun isTop => if (!isTop) == wanted then nodes else []
      cases same : (!page.isTop) == wanted with
      | true => simpa [Lookup.keepFramed, same] using framed
      | false => simpa [Lookup.keepFramed, same] using framed

/-- Two stages in sequence keep what passes both. -/
theorem narrowed {stage rest : List NodeId → Lookup (List NodeId)} {passes admits : NodeId → Bool}
    (first : ∀ nodes, Gives page (stage nodes) (nodes.filter passes))
    (onward : ∀ nodes, Gives page (rest nodes) (nodes.filter admits)) (nodes : List NodeId) :
    Gives page (stage nodes >>= rest) (nodes.filter fun node => passes node && admits node) := by
  refine (first nodes).chain ?_
  have kept := onward (nodes.filter passes)
  rw [List.filter_filter] at kept
  simpa only [Bool.and_comm] using kept

/-- The filters of a query, one after the other, where the last stage keeps what passes the child filter. -/
theorem staged {selector : String} {text : Option TextFilter} {styles : List StyleFilter}
    {display iframe : Option Bool} {child : Option Matcher} {scope : Scope}
    {rest : List NodeId → Lookup (List NodeId)}
    (onward : ∀ nodes, Gives page (rest nodes)
      (nodes.filter fun node => child.all fun matcher => (matcher.described page (.node node)).target.isSome)) :
    Gives page (do
      let nodes ← Lookup.call (.queryAll scope selector)
      let nodes ← Lookup.keepText text nodes
      let nodes ← Lookup.keepStyled styles nodes
      let nodes ← Lookup.keepDisplayed display nodes
      let nodes ← Lookup.keepFramed iframe nodes
      rest nodes)
    (ElementQuery.described page ⟨selector, text, styles, display, iframe, child⟩ scope) := by
  refine (call (.queryAll scope selector) []).chain ?_
  have stages := narrowed (keepText text) (narrowed (keepStyled styles)
    (narrowed (keepDisplayed display) (narrowed (keepFramed iframe) onward))) (page.elements scope selector)
  rw [ElementQuery.described, funext (ElementQuery.admits_eq page selector text styles display iframe child)]
  simp only [Bool.and_assoc]
  exact stages

mutual

theorem findElements : ∀ (query : ElementQuery) (scope : Scope),
    Gives page (Lookup.findElements query scope) (query.described page scope)
  | ⟨_, _, _, _, _, none⟩, _ => staged fun nodes => by simpa using okay nodes
  | ⟨_, _, _, _, _, some matcher⟩, _ =>
      staged fun nodes => keep nodes fun node =>
        (find matcher (.node node)).map fun found => found.target.isSome

theorem find : ∀ (matcher : Matcher) (scope : Scope),
    Gives page (Lookup.find matcher scope) (matcher.described page scope)
  | ⟨target, none⟩, scope => by
      have found := (findElements target scope).map fun nodes => (⟨none, nodes.head?⟩ : Resolved)
      rwa [ElementQuery.described, List.head?_filter] at found
  | ⟨target, some parent⟩, scope => by
      have parents := findElements parent scope
      have inside := fun first => (findElements target (.node first)).map fun nodes =>
        (⟨some first, nodes.head?⟩ : Resolved)
      refine parents.chain ?_
      rw [ElementQuery.described, Matcher.described, ← List.head?_filter]
      cases (page.elements scope parent.selector).filter (parent.admits page) with
      | nil => exact okay _
      | cons first rest =>
          have found := inside first
          rw [ElementQuery.described, List.head?_filter] at found
          exact found

end

end Lookup.Gives

namespace Lookup

/-- A lookup that applies the filters of a query one after the other finds, in their order, the elements of the
selection that pass all of them at once, where the page does not change and no call fails that the lookup makes.
One more filter can only take elements away.  On a snapshot that replies in this way the lookup is over at once
and changes nothing. -/
theorem findElements_at_once (page : FixedPage) (query : ElementQuery) (scope : Scope)
    (through : (findElements query scope).run.goesThrough page = true) :
    (findElements query scope).run.consult page =
        some (.ok ((page.elements scope query.selector).filter (query.admits page))) ∧
      (∀ narrower, query.Adds narrower → (findElements narrower scope).run.goesThrough page = true →
        ∃ fewer, (findElements narrower scope).run.consult page = some (.ok fewer) ∧
          fewer.Sublist (query.described page scope)) ∧
      ∀ world : World, page = .ofSnapshot world.page →
        (findElements query scope).run.run world = (.done (.ok (query.described page scope)), world) := by
  have gives := Gives.findElements query scope through
  refine ⟨gives, fun narrower adds further => ?_, fun world same => ?_⟩
  · exact ⟨_, Gives.findElements narrower scope further, adds.sublist page scope⟩
  · subst same
    exact Flow.run_of_consult (Flow.Grounded.findElements query scope []) gives

/-- Of three boxes two hold a button in a paragraph with a certain text, and one of these is fixed. -/
theorem findElements_at_once_boxes :
    let world := World.start (.ofText
      "<div>Reject</div><div><p><button>Reject</button></div><div style=position:fixed><p><button>reject</button>")
    let button : Matcher := ⟨⟨"button", some (.one "REJECT"), [], none, none, none⟩, some (.css "p")⟩
    let query : ElementQuery := ⟨"div", none, [], none, some false, some button⟩
    let narrower : ElementQuery := ⟨"div", none, [⟨"position", "fixed", false⟩], none, some false, some button⟩
    (findElements query .document).run.goesThrough (.ofSnapshot world.page) = true ∧ query.Adds narrower ∧
      (findElements narrower .document).run.goesThrough (.ofSnapshot world.page) = true ∧
      (findElements query .document).run.run world = (.done (.ok [4, 7]), world) ∧
      ∃ fewer, (findElements narrower .document).run.consult (.ofSnapshot world.page) = some (.ok fewer) ∧
        fewer.Sublist [4, 7] := by
  intro world button query narrower
  have through : (findElements query .document).run.goesThrough (.ofSnapshot world.page) = true := by decide +kernel
  have further : (findElements narrower .document).run.goesThrough (.ofSnapshot world.page) = true := by
    decide +kernel
  have adds : query.Adds narrower := .style [] [] ⟨"position", "fixed", false⟩
  have described : query.described (.ofSnapshot world.page) .document = [4, 7] := by decide +kernel
  obtain ⟨-, narrows, atOnce⟩ := findElements_at_once (.ofSnapshot world.page) query .document through
  have found := atOnce world rfl
  have fewer := narrows narrower adds further
  rw [described] at found fewer
  exact ⟨through, adds, further, found, fewer⟩

end Lookup

end ConsentBanner

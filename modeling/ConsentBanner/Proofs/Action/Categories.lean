import ConsentBanner.Action.Run

/-!
# The purposes that an action can switch

The purposes that an action is to allow are handed on through members of lists, sides of branches and bodies of
loops, up to the consent choices in it (`Action.Reaches`).  What a run does depends on no other purposes than those
that these choices are about (`Action.run_congr`).

`Action.categories` sums up fewer of them: those of an action that is a consent choice, and of one that is a list of
them (`Action.categories_direct`).  It misses choices that stand any deeper (`Action.categories_nested`).
-/

set_option autoImplicit false

namespace ConsentBanner

/-- A consent choice with these rules is run with the purposes that the action is run with. -/
inductive Action.Reaches : Action → List ConsentRule → Prop where
  | consent (rules : List ConsentRule) : Reaches (.consent rules) rules
  | list {actions : List Action} {action : Action} {rules : List ConsentRule} (member : action ∈ actions)
      (inside : action.Reaches rules) : Reaches (.list actions) rules
  | absent {matcher : Matcher} {whenAbsent : Action} {whenPresent : Option Action} {rules : List ConsentRule}
      (inside : whenAbsent.Reaches rules) : Reaches (.ifCss matcher (some whenAbsent) whenPresent) rules
  | present {matcher : Matcher} {whenAbsent : Option Action} {whenPresent : Action} {rules : List ConsentRule}
      (inside : whenPresent.Reaches rules) : Reaches (.ifCss matcher whenAbsent (some whenPresent)) rules
  | forEach {matcher : Matcher} {action : Action} {rules : List ConsentRule} (inside : action.Reaches rules) :
      Reaches (.forEach matcher action) rules

inductive Action.Offers : Action → List ConsentRule → Prop where
  | consent (rules : List ConsentRule) : Offers (.consent rules) rules
  | list {actions : List Action} {rules : List ConsentRule} (member : .consent rules ∈ actions) :
      Offers (.list actions) rules

/-- A consent choice that is run with the purposes of the action has a rule for this one. -/
def Action.CanSwitch (action : Action) (category : Category) : Prop :=
  ∃ rules, action.Reaches rules ∧ ∃ rule ∈ rules, rule.category = some category

theorem Action.Offers.reaches {action : Action} {rules : List ConsentRule} (offers : action.Offers rules) :
    action.Reaches rules := by
  cases offers with
  | consent => exact .consent rules
  | list member => exact .list member (.consent rules)

/-! ## What a run depends on -/

variable {timings : Timings} {one other : List Category}

theorem ConsentRule.run_congr (rule : ConsentRule) (scope : Scope)
    (same : isWanted one rule.category = isWanted other rule.category) :
    rule.run timings one scope = rule.run timings other scope := by
  obtain ⟨category, matcher, toggle, whenTrue, whenFalse⟩ := rule
  replace same : isWanted one category = isWanted other category := same
  rcases matcher with _ | matcher
  · simp only [ConsentRule.run, same]
  · rcases toggle with _ | toggle <;> simp only [ConsentRule.run, same]

/-- Two lists have the same of the purposes that an action can switch. -/
def Action.Alike (action : Action) (one other : List Category) : Prop :=
  ∀ category, action.CanSwitch category → (category ∈ one ↔ category ∈ other)

theorem Action.Alike.inside {action inner : Action} (alike : action.Alike one other)
    (hands : ∀ rules, inner.Reaches rules → action.Reaches rules) : inner.Alike one other := by
  rintro category ⟨rules, inside, about⟩
  exact alike category ⟨rules, hands rules inside, about⟩

theorem runConsentRules_congr (rules : List ConsentRule) (scope : Scope)
    (alike : (Action.consent rules).Alike one other) :
    runConsentRules timings rules one scope = runConsentRules timings rules other scope := by
  have wanted : ∀ rule ∈ rules, isWanted one rule.category = isWanted other rule.category := by
    intro rule member
    cases isKnown : rule.category with
    | none => rfl
    | some category =>
        have same := alike category ⟨rules, .consent rules, rule, member, isKnown⟩
        simp only [isWanted, Option.any_some, List.contains_eq_mem, same]
  clear alike
  induction rules with
  | nil => rfl
  | cons rule rest ih =>
      rw [runConsentRules, runConsentRules, rule.run_congr scope (wanted rule List.mem_cons_self),
        ih fun other member => wanted other (List.mem_cons_of_mem rule member)]

mutual

/-- An action does the same for two lists with the same of the purposes that it can switch. -/
theorem Action.run_congr : ∀ (action : Action) (scope : Scope), action.Alike one other →
    action.run timings one scope = action.run timings other scope
  | .list actions, scope, alike => by
      rw [Action.run, Action.run, runActions_congr actions scope fun _ member => alike.inside fun _ => .list member]
  | .consent rules, scope, alike => by
      rw [Action.run, Action.run, runConsentRules_congr rules scope alike]
  | .ifCss matcher whenAbsent whenPresent, scope, alike => by
      rw [Action.run, Action.run, runAction?_congr whenAbsent scope fun _ is => alike.inside fun _ => is ▸ .absent,
        runAction?_congr whenPresent scope fun _ is => alike.inside fun _ => is ▸ .present]
  | .forEach matcher action, scope, alike => by
      have each : (fun inner => action.run timings one inner) = fun inner => action.run timings other inner :=
        funext fun inner => action.run_congr inner (alike.inside fun _ => .forEach)
      rw [Action.run, Action.run, each]
  | .click _, _, _ | .waitCss _ _ _ _, _, _ | .hide _, _, _ | .slide _ _ _, _, _ | .close, _, _ | .wait _, _, _
  | .evaluate _ _ _, _, _ => by rw [Action.run, Action.run]

theorem runAction?_congr : ∀ (action : Option Action) (scope : Scope),
    (∀ inner, action = some inner → inner.Alike one other) →
      runAction? timings action one scope = runAction? timings action other scope
  | none, _, _ => by rw [runAction?, runAction?]
  | some inner, scope, alike => by rw [runAction?, runAction?, inner.run_congr scope (alike inner rfl)]

theorem runActions_congr : ∀ (actions : List Action) (scope : Scope),
    (∀ action ∈ actions, action.Alike one other) →
      runActions timings actions one scope = runActions timings actions other scope
  | [], _, _ => by rw [runActions, runActions]
  | action :: rest, scope, alike => by
      rw [runActions, runActions, action.run_congr scope (alike action List.mem_cons_self),
        runActions_congr rest scope fun later member => alike later (List.mem_cons_of_mem action member)]

end

/-! ## What is summed up -/

theorem mem_addCategory {known : List Category} {rule : ConsentRule} {category : Category} :
    category ∈ addCategory known rule ↔ category ∈ known ∨ rule.category = some category := by
  rw [addCategory]
  split
  next isUnknown => simp [isUnknown]
  next found isFound =>
    rw [isFound, Option.some.injEq]
    split
    next there =>
      have there : found ∈ known := by simpa using there
      exact ⟨.inl, fun is => is.elim id fun same => same ▸ there⟩
    next => rw [List.mem_append, List.mem_singleton, eq_comm (a := category)]

theorem nodup_addCategory {known : List Category} (distinct : known.Nodup) (rule : ConsentRule) :
    (addCategory known rule).Nodup := by
  rw [addCategory]
  split
  next => exact distinct
  next category _ =>
    split
    next => exact distinct
    next new =>
      have new : category ∉ known := by simpa using new
      exact List.nodup_append.mpr ⟨distinct, by simp, fun known isKnown found isFound same =>
        new (List.mem_singleton.mp isFound ▸ same ▸ isKnown)⟩

/-- Rules add their purposes to those that are known, each once. -/
theorem foldl_addCategory (rules : List ConsentRule) : ∀ {known : List Category}, known.Nodup →
    (rules.foldl addCategory known).Nodup ∧ ∀ category, category ∈ rules.foldl addCategory known ↔
      category ∈ known ∨ ∃ rule ∈ rules, rule.category = some category := by
  induction rules with
  | nil => exact fun distinct => ⟨distinct, fun category => by simp⟩
  | cons rule rest ih =>
      intro known distinct
      obtain ⟨nodup, members⟩ := ih (nodup_addCategory distinct rule)
      refine ⟨nodup, fun category => ?_⟩
      simp only [List.foldl_cons, members, mem_addCategory, List.mem_cons, exists_eq_or_imp, or_assoc]

theorem Action.mem_consentRules {action : Action} {rule : ConsentRule} :
    rule ∈ action.consentRules ↔ ∃ rules, action = .consent rules ∧ rule ∈ rules := by
  cases action with
  | consent rules => exact ⟨fun member => ⟨rules, rfl, member⟩, fun ⟨_, is, member⟩ => Action.consent.inj is ▸ member⟩
  | _ => simp [Action.consentRules]

theorem Action.mem_directRules {action : Action} {rule : ConsentRule} :
    rule ∈ action.directRules ↔ ∃ rules, action.Offers rules ∧ rule ∈ rules := by
  cases action with
  | list actions =>
      rw [directRules, List.mem_flatMap]
      constructor
      · rintro ⟨action, isMember, member⟩
        obtain ⟨rules, rfl, member⟩ := mem_consentRules.mp member
        exact ⟨rules, .list isMember, member⟩
      · rintro ⟨rules, offers, member⟩
        cases offers with
        | list isMember => exact ⟨_, isMember, member⟩
  | consent rules =>
      refine ⟨fun member => ⟨rules, .consent rules, member⟩, ?_⟩
      rintro ⟨rules, offers, member⟩
      cases offers with
      | consent => exact member
  | _ => exact ⟨nofun, fun ⟨_, offers, _⟩ => nomatch offers⟩

theorem Action.mem_categories {action : Action} {category : Category} :
    category ∈ action.categories ↔
      ∃ rules, action.Offers rules ∧ ∃ rule ∈ rules, rule.category = some category := by
  rw [categories, (foldl_addCategory action.directRules List.nodup_nil).2]
  simp only [List.not_mem_nil, false_or, mem_directRules]
  constructor
  · rintro ⟨rule, ⟨rules, offers, member⟩, about⟩
    exact ⟨rules, offers, rule, member, about⟩
  · rintro ⟨rules, offers, rule, member, about⟩
    exact ⟨rule, ⟨rules, offers, member⟩, about⟩

/-- Of every action the purposes are summed up, each once, that the consent choices it offers are about; all of them
it can switch.  If no consent choice stands any deeper these are all that it can switch.  No others make a difference
to what it does. -/
theorem Action.categories_direct (action : Action) :
    action.categories.Nodup ∧
      (∀ category, category ∈ action.categories ↔
        ∃ rules, action.Offers rules ∧ ∃ rule ∈ rules, rule.category = some category) ∧
      (∀ category ∈ action.categories, action.CanSwitch category) ∧
      ((∀ rules, action.Reaches rules → action.Offers rules) →
        ∀ category, category ∈ action.categories ↔ action.CanSwitch category) ∧
      ∀ (timings : Timings) (one other : List Category) (scope : Scope),
        (∀ category, action.CanSwitch category → (category ∈ one ↔ category ∈ other)) →
          action.run timings one scope = action.run timings other scope := by
  have switched : ∀ category ∈ action.categories, action.CanSwitch category := by
    intro category member
    obtain ⟨rules, offers, about⟩ := mem_categories.mp member
    exact ⟨rules, offers.reaches, about⟩
  refine ⟨(foldl_addCategory action.directRules List.nodup_nil).1, fun _ => mem_categories, switched,
    fun flat category => ⟨switched category, ?_⟩, fun _ _ _ scope alike => action.run_congr scope alike⟩
  rintro ⟨rules, reaches, about⟩
  exact mem_categories.mpr ⟨rules, flat rules reaches, about⟩

/-- A list of two consent choices, with two rules for one purpose. -/
theorem Action.categories_direct_twice :
    let rule : ConsentRule := ⟨some .analytics, none, none, some .close, none⟩
    let action : Action := .list [.consent [rule, rule], .wait 100, .consent [rule]]
    (∀ rules, action.Reaches rules → action.Offers rules) ∧ action.categories = [.analytics] ∧
      ∀ category, action.CanSwitch category ↔ category = .analytics := by
  intro rule action
  have flat : ∀ rules, action.Reaches rules → action.Offers rules := by
    intro rules (reaches : (Action.list [.consent [rule, rule], .wait 100, .consent [rule]]).Reaches rules)
    cases reaches with
    | list member inside =>
        cases inside with
        | consent => exact .list member
        | _ => simp at member
  have found : action.categories = [.analytics] := rfl
  obtain ⟨-, -, -, all, -⟩ := categories_direct action
  exact ⟨flat, found, fun category => by rw [← all flat category, found, List.mem_singleton]⟩

/-- A list with a list that is a consent choice closes the window if the purpose is wanted, and does nothing if it is
not; but no purposes of it are summed up. -/
theorem Action.categories_nested :
    let rule : ConsentRule := ⟨some .analytics, none, none, some .close, none⟩
    let action : Action := .list [.list [.consent [rule]]]
    action.CanSwitch .analytics ∧ .analytics ∉ action.categories ∧
      ∀ timings, action.run timings [.analytics] .document ≠ action.run timings [] .document := by
  intro rule action
  have reaches : action.Reaches [rule] :=
    .list List.mem_cons_self (.list List.mem_cons_self (.consent [rule]))
  refine ⟨⟨[rule], reaches, rule, List.mem_cons_self, rfl⟩, nofun, fun timings same => ?_⟩
  -- The one run starts with a call to the page, and the other one ends at once.
  cases same

end ConsentBanner

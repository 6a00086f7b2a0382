import ConsentBanner.Proofs.Engine.Roster
import Mathlib.Data.List.Basic

/-!
# Rule sets entry by entry

Decoding a rule set sorts its entries into rules and errors.  What an entry comes to is said here
without its neighbours: `methodRule?` and `stepRule?` give the rule, `methodError?` and `stepFault?`
the error, the latter up to the name by which it is reported.  `decodeRules_sorts` says that the
lists of a decoded rule set are made of these in the order of the entries, and what follows for an
entry between others and for the handlers that are registered.
-/

set_option autoImplicit false

namespace ConsentBanner

theorem RunContext.isValid_iff (context : RunContext) :
    context.isValid = true ↔
      context.urlPattern = none ∨ context.urlPattern = some "" ∨
        ∃ text pattern, context.urlPattern = some text ∧ Pattern.ofText? text = some pattern := by
  unfold isValid pattern?
  cases asked : context.urlPattern with
  | none => simp
  | some text =>
    by_cases empty : text = ""
    · simp [empty]
    · simp [empty, Option.isSome_iff_exists]

namespace RuleSet

/-- The rule that an entry of the method rules is, under its own name. -/
def methodRule? (entry : String × Json) : Option (String × MethodRule) :=
  (MethodRule.decode .direct entry.2).toOption.map fun rule => (entry.1, rule)

/-- What is wrong with an entry of the method rules. -/
def methodError? (entry : String × Json) : Option RuleError :=
  match MethodRule.decode .direct entry.2 with
  | .ok _ => none
  | .error error => some (.decode entry.1 error)

/-- The rule that an entry of the step rules is. -/
def stepRule? (raw : Json) : Option StepRule :=
  (StepRule.decode .direct raw).toOption.filter fun rule => rule.runContext.isValid

/-- What is wrong with an entry of the step rules, by whatever name it is reported. -/
def stepFault? (raw : Json) : Option (String → RuleError) :=
  match StepRule.decode .direct raw with
  | .error error => some fun name => .decode name error
  | .ok rule => if rule.runContext.isValid then none else some .urlPattern

def stepErrors (place : Nat) (entries : List Json) : List RuleError :=
  (entries.zipIdx place).filterMap fun entry =>
    (stepFault? entry.1).map fun fault => fault (stepName entry.2 entry.1)

section Outcomes

variable {ε α : Type}

/-- The error of a failed outcome. -/
def error? : Except ε α → Option ε
  | .ok _ => none
  | .error e => some e

theorem accepted_eq_filterMap (outcomes : List (Except ε α)) :
    accepted outcomes = outcomes.filterMap Except.toOption := by
  induction outcomes with
  | nil => rfl
  | cons outcome rest ih => cases outcome <;> simp [accepted, List.filterMap_cons, Except.toOption, ih]

theorem refused_eq_filterMap (outcomes : List (Except ε α)) :
    refused outcomes = outcomes.filterMap error? := by
  induction outcomes with
  | nil => rfl
  | cons outcome rest ih => cases outcome <;> simp [refused, List.filterMap_cons, error?, ih]

end Outcomes

theorem toOption_methodEntry (entry : String × Json) :
    (methodEntry entry.1 entry.2).toOption = methodRule? entry := by
  unfold methodEntry methodRule?
  cases MethodRule.decode .direct entry.2 <;> rfl

theorem error?_methodEntry (entry : String × Json) :
    error? (methodEntry entry.1 entry.2) = methodError? entry := by
  unfold methodEntry methodError?
  cases MethodRule.decode .direct entry.2 <;> rfl

theorem toOption_stepEntry (place : Nat) (raw : Json) :
    (stepEntry place raw).toOption = stepRule? raw := by
  unfold stepEntry stepRule?
  cases StepRule.decode .direct raw with
  | error error => rfl
  | ok rule => by_cases valid : rule.runContext.isValid <;> simp [valid, Option.filter, Except.toOption]

theorem error?_stepEntry (place : Nat) (raw : Json) :
    error? (stepEntry place raw) = (stepFault? raw).map fun fault => fault (stepName place raw) := by
  unfold stepEntry stepFault?
  cases StepRule.decode .direct raw with
  | error error => rfl
  | ok rule => by_cases valid : rule.runContext.isValid <;> simp [valid, error?]

theorem decodeRules_eq (rules : RuleSet) :
    rules.decodeRules =
      { stepRules := rules.autoconsent.filterMap stepRule?
        methodRules := rules.consentomatic.filterMap methodRule?
        errors := rules.consentomatic.filterMap methodError? ++ stepErrors 0 rules.autoconsent } := by
  have steps : accepted rules.stepOutcomes = rules.autoconsent.filterMap stepRule? := by
    rw [accepted_eq_filterMap, stepOutcomes, List.mapIdx_eq_zipIdx_map, List.filterMap_map]
    simp only [Function.comp_def, toOption_stepEntry]
    rw [← Function.comp_def stepRule? Prod.fst, ← List.filterMap_map, List.zipIdx_map_fst]
  have faults : refused rules.stepOutcomes = stepErrors 0 rules.autoconsent := by
    rw [refused_eq_filterMap, stepOutcomes, List.mapIdx_eq_zipIdx_map, List.filterMap_map]
    simp only [Function.comp_def, error?_stepEntry]
    rfl
  have methods : accepted rules.methodOutcomes = rules.consentomatic.filterMap methodRule? := by
    rw [accepted_eq_filterMap, methodOutcomes, List.filterMap_map]
    simp only [Function.comp_def, toOption_methodEntry]
  have errors : refused rules.methodOutcomes = rules.consentomatic.filterMap methodError? := by
    rw [refused_eq_filterMap, methodOutcomes, List.filterMap_map]
    simp only [Function.comp_def, error?_methodEntry]
  rw [decodeRules, steps, faults, methods, errors]

/-- An entry is reported by its own name, or by its place if it has none. -/
theorem stepName_cases (place : Nat) (raw : Json) :
    (∃ name, raw.get? "name" = some (.string name) ∧ stepName place raw = name) ∨
      stepName place raw = "autoconsent[" ++ toString place ++ "]" := by
  unfold stepName
  cases named : (raw.get? "name").bind Json.asString? with
  | none => exact .inr rfl
  | some name =>
    obtain ⟨value, found, text⟩ := Option.bind_eq_some_iff.mp named
    cases value with
    | string own =>
      obtain rfl : own = name := Option.some.inj text
      exact .inl ⟨own, found, rfl⟩
    | null | bool | number | array | object => cases text

theorem stepErrors_append (place : Nat) (before after : List Json) :
    stepErrors place (before ++ after) =
      stepErrors place before ++ stepErrors (place + before.length) after := by
  simp only [stepErrors, List.zipIdx_append, List.filterMap_append]

theorem stepErrors_cons (place : Nat) (raw : Json) (after : List Json) :
    stepErrors place (raw :: after) =
      ((stepFault? raw).map fun fault => fault (stepName place raw)).toList ++
        stepErrors (place + 1) after := by
  cases faulty : stepFault? raw <;> simp [stepErrors, faulty]

/-- A rule set sorted into rules and errors: every entry comes to one item by itself, and the items
stand in the order of the entries. -/
structure Sorted (rules : RuleSet) (decoded : DecodedRules) : Prop where
  method : ∀ entry, (methodRule? entry).isSome ≠ (methodError? entry).isSome
  step : ∀ raw, (stepRule? raw).isSome ≠ (stepFault? raw).isSome
  methodRules : decoded.methodRules = rules.consentomatic.filterMap methodRule?
  stepRules : decoded.stepRules = rules.autoconsent.filterMap stepRule?
  errors : decoded.errors =
    rules.consentomatic.filterMap methodError? ++ stepErrors 0 rules.autoconsent
  /-- No entry is passed over and none counts twice. -/
  total : decoded.methodRules.length + decoded.stepRules.length + decoded.errors.length =
    rules.consentomatic.length + rules.autoconsent.length
  /-- The pattern of every step rule can be used. -/
  patterns : ∀ rule ∈ decoded.stepRules,
    rule.runContext.urlPattern = none ∨ rule.runContext.urlPattern = some "" ∨
      ∃ text pattern, rule.runContext.urlPattern = some text ∧
        Pattern.ofText? text = some pattern

theorem isSome_methodRule?_ne (entry : String × Json) :
    (methodRule? entry).isSome ≠ (methodError? entry).isSome := by
  unfold methodRule? methodError?
  cases MethodRule.decode .direct entry.2 <;> simp [Except.toOption]

theorem isSome_stepRule?_ne (raw : Json) :
    (stepRule? raw).isSome ≠ (stepFault? raw).isSome := by
  unfold stepRule? stepFault?
  cases StepRule.decode .direct raw with
  | error error => simp [Except.toOption]
  | ok rule => by_cases valid : rule.runContext.isValid <;> simp [valid, Option.filter, Except.toOption]

theorem length_accepted_add_refused {ε α : Type} (outcomes : List (Except ε α)) :
    (accepted outcomes).length + (refused outcomes).length = outcomes.length := by
  induction outcomes with
  | nil => rfl
  | cons outcome rest ih =>
    cases outcome <;> simp only [accepted, refused, List.length_cons] <;> omega

theorem sorted_decodeRules (rules : RuleSet) : Sorted rules rules.decodeRules where
  method := isSome_methodRule?_ne
  step := isSome_stepRule?_ne
  methodRules := by rw [decodeRules_eq]
  stepRules := by rw [decodeRules_eq]
  errors := by rw [decodeRules_eq]
  total := by
    have methods := length_accepted_add_refused rules.methodOutcomes
    have steps := length_accepted_add_refused rules.stepOutcomes
    simp only [methodOutcomes, stepOutcomes, List.length_map, List.length_mapIdx] at methods steps
    simp only [decodeRules, methodOutcomes, stepOutcomes, List.length_append]
    omega
  patterns rule member := by
    rw [decodeRules_eq] at member
    obtain ⟨raw, -, isRule⟩ := List.mem_filterMap.mp member
    have valid := (Option.filter_eq_some_iff.mp isRule).2
    exact rule.runContext.isValid_iff.mp valid

/-- What an entry of the method rules adds to what its neighbours come to. -/
theorem decodeRules_method (before after : Keyed String Json) (entry : String × Json)
    (steps : List Json) :
    let decoded := decodeRules ⟨before ++ entry :: after, steps⟩
    decoded.stepRules = (decodeRules ⟨[], steps⟩).stepRules ∧
      decoded.methodRules = (decodeRules ⟨before, []⟩).methodRules ++
        (methodRule? entry).toList ++ (decodeRules ⟨after, []⟩).methodRules ∧
      decoded.errors = (decodeRules ⟨before, []⟩).errors ++
        (methodError? entry).toList ++ (decodeRules ⟨after, steps⟩).errors := by
  simp only [decodeRules_eq, List.filterMap_append]
  refine ⟨trivial, ?_, ?_⟩
  · cases isRule : methodRule? entry <;> simp [isRule]
  · cases faulty : methodError? entry <;> simp [faulty, stepErrors]

/-- What an entry of the step rules adds to what its neighbours come to. -/
theorem decodeRules_step (methods : Keyed String Json) (before after : List Json) (raw : Json) :
    let decoded := decodeRules ⟨methods, before ++ raw :: after⟩
    decoded.methodRules = (decodeRules ⟨methods, []⟩).methodRules ∧
      decoded.stepRules = (decodeRules ⟨[], before⟩).stepRules ++
        (stepRule? raw).toList ++ (decodeRules ⟨[], after⟩).stepRules ∧
      decoded.errors = (decodeRules ⟨methods, before⟩).errors ++
        ((stepFault? raw).map fun fault => fault (stepName before.length raw)).toList ++
          stepErrors (before.length + 1) after := by
  simp only [decodeRules_eq, List.filterMap_append]
  refine ⟨trivial, ?_, ?_⟩
  · cases isRule : stepRule? raw <;> simp [isRule]
  · rw [stepErrors_append, stepErrors_cons, Nat.zero_add]
    simp only [List.append_assoc]

end RuleSet

namespace EngineState

theorem names_eq (handlers : List Handler) :
    handlers.map Handler.name =
      (handlers.map Handler.plan).map fun plan => Handler.name ⟨0, plan⟩ := by
  rw [List.map_map]
  rfl

/-- One handler for each rule is registered, those with methods first. -/
theorem handlers_addRules (rules : RuleSet) (state : EngineState) :
    ∃ added, (state.addRules rules).handlers = state.handlers ++ added ∧
      added.map Handler.plan =
        rules.decodeRules.methodRules.map (fun rule => .methods rule.1 rule.2) ++
          rules.decodeRules.stepRules.map .steps ∧
      added.map Handler.name =
        rules.decodeRules.methodRules.map (fun rule => "com_" ++ rule.1) ++
          rules.decodeRules.stepRules.map StepRule.name ∧
      added.map Handler.slot = List.range' state.nextSlot added.length := by
  let plans : List Plan :=
    rules.decodeRules.methodRules.map (fun rule => .methods rule.1 rule.2) ++
      rules.decodeRules.stepRules.map .steps
  let added : List Handler :=
    (plans.zipIdx state.nextSlot).map fun entry => ⟨entry.2, entry.1⟩
  have planned : added.map Handler.plan = plans := by
    simp [added, List.map_map, Function.comp_def, List.zipIdx_map_fst]
  refine ⟨added, handlers_addAll plans state, planned, ?names, ?slots⟩
  case names =>
    rw [names_eq, planned]
    simp [plans, List.map_map, Function.comp_def, Handler.name, methodMark]
  case slots => simp [added, List.map_map, Function.comp_def]

end EngineState

namespace RuleSet

/-- Decoding sorts the entries of a rule set one by one: each comes to one rule or one error that
depends on nothing but the entry, up to its place where it has no name, and goes between those of the
entries before and behind it.  One handler is registered for each rule. -/
theorem decodeRules_sorts (rules : RuleSet) :
    rules.Sorted rules.decodeRules ∧
    (∀ (before after : Keyed String Json) (entry : String × Json) (steps : List Json),
      let decoded := decodeRules ⟨before ++ entry :: after, steps⟩
      decoded.stepRules = (decodeRules ⟨[], steps⟩).stepRules ∧
        decoded.methodRules = (decodeRules ⟨before, []⟩).methodRules ++
          (methodRule? entry).toList ++ (decodeRules ⟨after, []⟩).methodRules ∧
        decoded.errors = (decodeRules ⟨before, []⟩).errors ++
          (methodError? entry).toList ++ (decodeRules ⟨after, steps⟩).errors) ∧
    (∀ (methods : Keyed String Json) (before after : List Json) (raw : Json),
      let decoded := decodeRules ⟨methods, before ++ raw :: after⟩
      decoded.methodRules = (decodeRules ⟨methods, []⟩).methodRules ∧
        decoded.stepRules = (decodeRules ⟨[], before⟩).stepRules ++
          (stepRule? raw).toList ++ (decodeRules ⟨[], after⟩).stepRules ∧
        decoded.errors = (decodeRules ⟨methods, before⟩).errors ++
          ((stepFault? raw).map fun fault => fault (stepName before.length raw)).toList ++
            stepErrors (before.length + 1) after) ∧
    (∀ place raw, (∃ name, raw.get? "name" = some (.string name) ∧ stepName place raw = name) ∨
      stepName place raw = "autoconsent[" ++ toString place ++ "]") ∧
    ∀ state : EngineState, ∃ added, (state.addRules rules).handlers = state.handlers ++ added ∧
      added.length = rules.decodeRules.methodRules.length + rules.decodeRules.stepRules.length ∧
      added.map Handler.plan =
        rules.decodeRules.methodRules.map (fun rule => .methods rule.1 rule.2) ++
          rules.decodeRules.stepRules.map .steps ∧
      added.map Handler.name =
        rules.decodeRules.methodRules.map (fun rule => "com_" ++ rule.1) ++
          rules.decodeRules.stepRules.map StepRule.name := by
  refine ⟨rules.sorted_decodeRules, decodeRules_method, decodeRules_step, stepName_cases, ?_⟩
  intro state
  obtain ⟨added, appended, plans, names, -⟩ := state.handlers_addRules rules
  have count := congrArg List.length plans
  simp only [List.length_map, List.length_append] at count
  exact ⟨added, appended, count, plans, names⟩

/-- A rule set with a broken entry of each kind in front of a sound one. -/
def halfBroken : RuleSet :=
  ⟨[("bad", .object [("methods", .bool true)]), ("good", .object [])],
   [.object [("runContext", .object [("urlPattern", .string "(")])],
    .object [("name", .string "ok"), ("runContext", .object [("urlPattern", .string "a+")])]]⟩

theorem decodeRules_sorts_halfBroken :
    halfBroken.decodeRules.methodRules.length = 1 ∧ halfBroken.decodeRules.errors.length = 2 ∧
    ∃ rule ∈ halfBroken.decodeRules.stepRules,
      rule.runContext.urlPattern = none ∨ rule.runContext.urlPattern = some "" ∨
        ∃ text pattern, rule.runContext.urlPattern = some text ∧
          Pattern.ofText? text = some pattern := by
  have sound : "ok" ∈ halfBroken.decodeRules.stepRules.map StepRule.name := by decide +kernel
  obtain ⟨rule, member, -⟩ := List.mem_map.mp sound
  obtain ⟨sorted, -⟩ := decodeRules_sorts halfBroken
  exact ⟨by decide +kernel, by decide +kernel, rule, member, sorted.patterns rule member⟩

end RuleSet

end ConsentBanner

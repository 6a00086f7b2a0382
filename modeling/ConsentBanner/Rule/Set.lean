import ConsentBanner.Rule.Config

/-!
# Rule sets

A rule set holds rules as they were delivered, not yet looked at: method rules by name and step
rules in a list.  `RuleSet.decode` turns every entry into a rule or an error on its own, so that a
broken entry touches no other.
-/

set_option autoImplicit false

namespace ConsentBanner

open Json (Decoder Held DecodeError)
open Json.Decode

/-- Rules as they were delivered. -/
structure RuleSet where
  /-- Method rules by name, in ascending order. -/
  consentomatic : Keyed String Json
  /-- Step rules. -/
  autoconsent : List Json

/-- Why an entry of a rule set is no rule. -/
inductive RuleError where
  | decode (name : String) (error : DecodeError)
  | urlPattern (name : String)

structure DecodedRules where
  stepRules : List StepRule
  methodRules : List (String × MethodRule)
  errors : List RuleError

namespace RuleSet

def empty : RuleSet := ⟨[], []⟩

def methodEntry (name : String) (raw : Json) : Except RuleError (String × MethodRule) :=
  match MethodRule.decode .direct raw with
  | .ok rule => .ok (name, rule)
  | .error error => .error (.decode name error)

/-- The name by which an entry of the step rules is reported: its own, or its place. -/
def stepName (place : Nat) (raw : Json) : String :=
  match (raw.get? "name").bind Json.asString? with
  | some name => name
  | none => "autoconsent[" ++ toString place ++ "]"

def stepEntry (place : Nat) (raw : Json) : Except RuleError StepRule :=
  let name := stepName place raw
  match StepRule.decode .direct raw with
  | .error error => .error (.decode name error)
  | .ok rule => if rule.runContext.isValid then .ok rule else .error (.urlPattern name)

def accepted {ε α : Type} : List (Except ε α) → List α
  | [] => []
  | .ok a :: rest => a :: accepted rest
  | .error _ :: rest => accepted rest

def refused {ε α : Type} : List (Except ε α) → List ε
  | [] => []
  | .ok _ :: rest => refused rest
  | .error e :: rest => e :: refused rest

/-- What the entries of the method rules come to, in their order. -/
def methodOutcomes (rules : RuleSet) : List (Except RuleError (String × MethodRule)) :=
  rules.consentomatic.map fun entry => methodEntry entry.1 entry.2

/-- What the entries of the step rules come to, in their order. -/
def stepOutcomes (rules : RuleSet) : List (Except RuleError StepRule) :=
  rules.autoconsent.mapIdx stepEntry

/-- Every entry as a rule or an error; the errors of the method rules stand first. -/
def decodeRules (rules : RuleSet) : DecodedRules :=
  { stepRules := accepted rules.stepOutcomes
    methodRules := accepted rules.methodOutcomes
    errors := refused rules.methodOutcomes ++ refused rules.stepOutcomes }

def decode : Decoder RuleSet :=
  record "struct RuleSet"
    (fun held given => do
      let autoconsent ← memberOr given "autoconsent" [] (list any) held
      let consentomatic ← memberOr given "consentomatic" [] table held
      return ⟨consentomatic, autoconsent⟩)
    (fun held => do
      let consentomatic ← nextOr [] table held
      let autoconsent ← nextOr [] (list any) held
      return ⟨consentomatic, autoconsent⟩)

def encode (rules : RuleSet) : Json :=
  .object [("autoconsent", .array rules.autoconsent), ("consentomatic", .object rules.consentomatic)]

end RuleSet

end ConsentBanner

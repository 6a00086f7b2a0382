import ConsentBanner.Json.Skipped
import ConsentBanner.Rule.Set

/-!
# Rule sets as text

`RuleSet.ofText` reads a rule set from the text in which rules are delivered.  Members that are not
known are passed over; what is wrong is reported with its place.
-/

set_option autoImplicit false

namespace ConsentBanner.RuleSet

open Json (Found Reader ReadError)
open Json.Reader

/-- Something stands where something else was expected. -/
def failShape {α : Type} (found : Found) (expected : String) : Reader α :=
  failHere (.shape (.invalidType found expected))

/-- Reports what comes next instead of what was expected.  It is read first, except for lists and
objects. -/
def failUnexpected {α : Type} (expected : String) : Reader α := do
  match ← peekToken with
  | none => failNext .endInValue
  | some c =>
    if c = '[' then failShape .sequence expected
    else if c = '{' then failShape .map expected
    else failShape (Json.Decode.found (← value)) expected

/-- A list of any values, inside some lists and objects. -/
def entryList (opened : Nat) : Reader (List Json) := do
  match ← peekToken with
  | some '[' =>
    skip
    let elements ← entries true
    endList
    pure elements
  | _ => failUnexpected "a sequence"
where
  /-- The elements of the list. -/
  entries (first : Bool) : Reader (List Json) := fun cursor =>
    elementsWith (2 * cursor.rest.length + 2) (127 - opened) first cursor

/-- An object with any values, inside some lists and objects. -/
def entryTable (opened : Nat) : Reader (Keyed String Json) := do
  match ← peekToken with
  | some '{' =>
    skip
    let members ← entries true
    endObject
    match Json.ofMembers members with
    | .object table => pure table
    | _ => pure []
  | _ => failUnexpected "a map"
where
  /-- The members of the object. -/
  entries (first : Bool) : Reader (List (String × Json)) := fun cursor =>
    membersWith (2 * cursor.rest.length + 2) (127 - opened) first cursor

/-- A member stands there twice.  The place is behind its key, or behind the object if that ends
there. -/
def failDuplicate {α : Type} (name : String) : Reader α := do
  let next ← peekToken
  if next = some '}' then skip
  failHere (.shape (.duplicateField name))

def members : Nat → Bool → Option (Keyed String Json) → Option (List Json) → Reader RuleSet
  | 0, _, _, _ => failHere .endInObject
  | fuel + 1, first, methods, steps => do
    if ← nextKey first then
      let name ← key
      if name = "consentomatic" then
        if methods.isSome then failDuplicate name
        else
          colon
          let table ← entryTable 1
          members fuel false (some table) steps
      else if name = "autoconsent" then
        if steps.isSome then failDuplicate name
        else
          colon
          let list ← entryList 1
          members fuel false methods (some list)
      else
        colon
        skipValue
        members fuel false methods steps
    else pure ⟨methods.getD [], steps.getD []⟩

def elements : Reader RuleSet := do
  if ← nextElement true then
    let methods ← entryTable 1
    if ← nextElement false then
      let steps ← entryList 1
      pure ⟨methods, steps⟩
    else pure ⟨methods, []⟩
  else pure .empty

def reader : Reader RuleSet := do
  match ← peekToken with
  | none => failNext .endInValue
  | some '[' =>
    skip
    let rules ← elements
    endList
    pure rules
  | some '{' =>
    skip
    let rules ← fun cursor => members (cursor.rest.length + 1) true none none cursor
    endObject
    pure rules
  | some _ => failUnexpected "struct RuleSet"

def ofText (text : String) : Except ReadError RuleSet := reader.run text

end ConsentBanner.RuleSet

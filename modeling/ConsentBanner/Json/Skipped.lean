import ConsentBanner.Json.Reader

/-!
# Skipping values

A value that nobody asked for is passed over without being built.  Its numbers may be of any size, its
escapes may name halves of pairs, and it may be nested to any depth.
-/

set_option autoImplicit false

namespace ConsentBanner.Json.Reader

/-- Passes over an exponent, with the cursor at its mark. -/
def skipExponent : Reader Unit := do
  skip
  let sign ← peek
  if sign = some '+' ∨ sign = some '-' then skip
  if (← peek).any Char.isDigit then
    let _ ← digits
  else failNext .invalidNumber

/-- Passes over an exponent, if there is one. -/
def skipExponentIfAny : Reader Unit := do
  let mark ← peek
  if mark = some 'e' ∨ mark = some 'E' then skipExponent

/-- Passes over a fraction, with the cursor at the point. -/
def skipFraction : Reader Unit := do
  skip
  let written ← digits
  if written.isEmpty then failNext .invalidNumber else skipExponentIfAny

/-- Passes over a number without its sign. -/
def skipNumber : Reader Unit := do
  match ← peek with
  | some '0' =>
    skip
    if (← peek).any Char.isDigit then failNext .invalidNumber
  | other => if other.any Char.isDigit then let _ ← digits else failNext .invalidNumber
  if (← peek) = some '.' then skipFraction else skipExponentIfAny

/-- Passes over the rest of a quoted text. -/
def skipStringFrom : Nat → Reader Unit
  | 0 => failHere .endInString
  | fuel + 1 => do
    match ← peek with
    | none => failHere .endInString
    | some '"' => skip
    | some '\\' =>
      skip
      match ← peek with
      | none => failHere .endInString
      | some 'u' =>
        skip
        let _ ← hexEscape
      | some c => if (escapedChar? c).isSome then skip else failNext .invalidEscape
      skipStringFrom fuel
    | some c =>
      if c.toNat < 32 then failHere .controlCharacter
      else
        skip
        skipStringFrom fuel

/-- Passes over a quoted text, with the cursor behind the opening quote. -/
def skipString : Reader Unit := fun cursor => skipStringFrom (cursor.rest.length + 1) cursor

/-- Passes over the key of a member and the colon. -/
def skipKey : Reader Unit := do
  match ← peekToken with
  | some '"' => skip
  | some _ => failNext .keyNotString
  | none => failNext .endInObject
  skipString
  colon

/-- Passes over a comma or the end of a list or an object; says whether it was a comma. -/
def skipComma (close : Char) (ended otherwise : Fault) : Reader Bool := do
  match ← peekToken with
  | none => failNext ended
  | some c =>
    if c = ',' then
      skip
      pure true
    else if c = close then
      skip
      pure false
    else failNext otherwise

/-- Passes over the end of an empty list or object; says whether it was there. -/
def skipEnd (close : Char) (ended : Fault) : Reader Bool := do
  match ← peekToken with
  | none => failNext ended
  | some c =>
    if c = close then
      skip
      pure true
    else pure false

mutual

def skipValueWith : Nat → Reader Unit
  | 0 => failHere .endInValue
  | fuel + 1 => do
    match ← peekToken with
    | none => failNext .endInValue
    | some c =>
      if c = 'n' then skip; word ['u', 'l', 'l']
      else if c = 't' then skip; word ['r', 'u', 'e']
      else if c = 'f' then skip; word ['a', 'l', 's', 'e']
      else if c = '-' then
        skip
        skipNumber
      else if c.isDigit then skipNumber
      else if c = '"' then
        skip
        skipString
      else if c = '[' then
        skip
        if !(← skipEnd ']' .endInList) then skipElementsWith fuel
      else if c = '{' then
        skip
        if !(← skipEnd '}' .endInObject) then skipMembersWith fuel
      else failNext .valueExpected

def skipElementsWith : Nat → Reader Unit
  | 0 => failHere .endInList
  | fuel + 1 => do
    skipValueWith fuel
    if ← skipComma ']' .endInList .listCommaOrEndExpected then skipElementsWith fuel

def skipMembersWith : Nat → Reader Unit
  | 0 => failHere .endInObject
  | fuel + 1 => do
    skipKey
    skipValueWith fuel
    if ← skipComma '}' .endInObject .objectCommaOrEndExpected then skipMembersWith fuel

end

def skipValue : Reader Unit := fun cursor => skipValueWith (2 * cursor.rest.length + 2) cursor

end ConsentBanner.Json.Reader

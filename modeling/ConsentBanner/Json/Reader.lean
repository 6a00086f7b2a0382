import ConsentBanner.Json.DecodeError
import ConsentBanner.Decimal.Reading

/-!
# Reading JSON text

A `Reader` consumes text from a cursor that knows its line and its column, the column counted in
bytes.  `Json.read` reads a whole text as one value.  What can go wrong is listed in `Fault`; the
place in an error is either just behind what was read or behind the next byte, as each rule says.
Nesting is limited to 127 levels.
-/

set_option autoImplicit false

namespace ConsentBanner.Json

/-- What can be wrong with a text. -/
inductive Fault where
  | endInList
  | endInObject
  | endInString
  | endInValue
  | colonExpected
  | listCommaOrEndExpected
  | objectCommaOrEndExpected
  | identExpected
  | valueExpected
  | invalidEscape
  | invalidNumber
  | numberOutOfRange
  | controlCharacter
  | keyNotString
  | loneSurrogate
  | trailingComma
  | trailingCharacters
  | endOfHexEscape
  | tooDeep
  /-- The text is JSON but not of the shape that was asked for. -/
  | shape (error : DecodeError)

def Fault.message : Fault → String
  | .endInList => "EOF while parsing a list"
  | .endInObject => "EOF while parsing an object"
  | .endInString => "EOF while parsing a string"
  | .endInValue => "EOF while parsing a value"
  | .colonExpected => "expected `:`"
  | .listCommaOrEndExpected => "expected `,` or `]`"
  | .objectCommaOrEndExpected => "expected `,` or `\x7d`"
  | .identExpected => "expected ident"
  | .valueExpected => "expected value"
  | .invalidEscape => "invalid escape"
  | .invalidNumber => "invalid number"
  | .numberOutOfRange => "number out of range"
  | .controlCharacter => "control character (\\u0000-\\u001F) found while parsing a string"
  | .keyNotString => "key must be a string"
  | .loneSurrogate => "lone leading surrogate in hex escape"
  | .trailingComma => "trailing comma"
  | .trailingCharacters => "trailing characters"
  | .endOfHexEscape => "unexpected end of hex escape"
  | .tooDeep => "recursion limit exceeded"
  | .shape error => error.message

/-- A place in a text and what follows it. -/
structure Cursor where
  rest : List Char
  line : Nat
  column : Nat

/-- A fault and where it was noticed. -/
structure ReadError where
  fault : Fault
  line : Nat
  column : Nat

def ReadError.message (error : ReadError) : String :=
  error.fault.message ++ " at line " ++ toString error.line ++ " column " ++ toString error.column

/-- A reading step: an answer and the cursor behind what was read, or an error. -/
abbrev Reader (α : Type) : Type := Cursor → Except ReadError (α × Cursor)

namespace Reader

def advance (cursor : Cursor) (c : Char) (rest : List Char) : Cursor :=
  if c = '\n' then ⟨rest, cursor.line + 1, 0⟩
  else ⟨rest, cursor.line, cursor.column + c.utf8Size⟩

def failHere {α : Type} (fault : Fault) : Reader α :=
  fun cursor => .error ⟨fault, cursor.line, cursor.column⟩

def failNext {α : Type} (fault : Fault) : Reader α := fun cursor =>
  match cursor.rest with
  | [] => .error ⟨fault, cursor.line, cursor.column⟩
  | c :: _ =>
    if c = '\n' then .error ⟨fault, cursor.line + 1, 0⟩
    else .error ⟨fault, cursor.line, cursor.column + 1⟩

/-- The next character, left in place. -/
def peek : Reader (Option Char) := fun cursor => .ok (cursor.rest.head?, cursor)

/-- Consumes one character, if there is one. -/
def skip : Reader Unit := fun cursor =>
  match cursor.rest with
  | [] => .ok ((), cursor)
  | c :: rest => .ok ((), advance cursor c rest)

instance : Monad Reader where
  pure a := fun cursor => .ok (a, cursor)
  bind step next := fun cursor =>
    match step cursor with
    | .error e => .error e
    | .ok (a, after) => next a after

/-- The cursor behind the blanks that come next. -/
def skipBlanks (line column : Nat) : List Char → Cursor
  | [] => ⟨[], line, column⟩
  | c :: rest =>
    if c = '\n' then skipBlanks (line + 1) 0 rest
    else if c = ' ' ∨ c = '\t' ∨ c = '\r' then skipBlanks line (column + 1) rest
    else ⟨c :: rest, line, column⟩

/-- The next character that is not a blank, left in place. -/
def peekToken : Reader (Option Char) := fun cursor =>
  let after := skipBlanks cursor.line cursor.column cursor.rest
  .ok (after.rest.head?, after)

/-- Consumes the rest of a word such as `null`. -/
def word : List Char → Reader Unit
  | [] => pure ()
  | expected :: more => fun cursor =>
    match cursor.rest with
    | [] => failHere .endInValue cursor
    | c :: rest =>
      if c = expected then word more (advance cursor c rest) else failNext .identExpected cursor

/-- Consumes the leading digits. -/
def digits : Reader (List Char) := fun cursor =>
  let (taken, rest) := Decimal.spanDigits cursor.rest
  .ok (taken, ⟨rest, cursor.line, cursor.column + taken.length⟩)

def significandLimit : Nat := Nat.pow 2 64 - 1

/-- Appends digits to a significand as long as it stays in its limit: the number read and how many
digits were left over. -/
def absorb (significand : Nat) : List Char → Nat × List Char
  | [] => (significand, [])
  | c :: rest =>
    let next := 10 * significand + (c.toNat - 48)
    if significandLimit < next then (significand, c :: rest) else absorb next rest

/-- The double for `significand · 10 ^ exponent`: one multiplication or division by a power of ten
where the power is a double, repeated divisions by `1e308` where it is not. -/
def assemble : Nat → Float → Int → Option Float
  | 0, x, _ => some x
  | fuel + 1, x, exponent =>
    if exponent.natAbs ≤ 308 then
      let power := Decimal.ofDecimal 1 exponent.natAbs
      if 0 ≤ exponent then
        let product := x * power
        if product.isInf then none else some product
      else some (x / power)
    else if x == 0.0 then some x
    else if 0 ≤ exponent then none
    else assemble fuel (x / Decimal.ofDecimal 1 308) (exponent + 308)

def floating (negative : Bool) (significand : Nat) (exponent : Int) : Reader Number :=
  match assemble (exponent.natAbs / 308 + 2) (Float.ofNat significand) exponent with
  | none => failHere .numberOutOfRange
  | some x => pure (.float (if negative then -x else x))

def exponentLimit : Nat := Nat.pow 2 31 - 1

/-- The exponent part of a number, with the cursor at its mark. -/
def exponentPart (negative : Bool) (significand : Nat) (start : Int) : Reader Number := do
  skip
  let sign ← peek
  let down := sign = some '-'
  if sign = some '+' ∨ sign = some '-' then skip
  match ← peek with
  | none => failHere .endInValue
  | some c =>
    if !c.isDigit then failNext .invalidNumber
    else
      let written ← digits
      let size := Decimal.numberFrom 0 written
      if exponentLimit < size then
        if significand ≠ 0 ∧ !down then failHere .numberOutOfRange
        else pure (.float (if negative then -0.0 else 0.0))
      else floating negative significand (if down then start - size else start + size)

/-- What follows the digits of a number that is not whole. -/
def exponentOrEnd (negative : Bool) (significand : Nat) (exponent : Int) : Reader Number := do
  match ← peek with
  | some c =>
    if c = 'e' ∨ c = 'E' then exponentPart negative significand exponent
    else floating negative significand exponent
  | none => floating negative significand exponent

/-- The fraction of a number, with the cursor at the point. -/
def fractionPart (negative : Bool) (significand : Nat) (exponent : Int) : Reader Number := do
  skip
  let written ← digits
  if written.isEmpty then
    match ← peek with
    | none => failNext .endInValue
    | some _ => failNext .invalidNumber
  else
    let (kept, left) := absorb significand written
    exponentOrEnd negative kept (exponent - (written.length - left.length : Nat))

def afterWhole (negative : Bool) (significand : Nat) : Reader Number := do
  match ← peek with
  | some '.' => fractionPart negative significand 0
  | some c =>
    if c = 'e' ∨ c = 'E' then exponentPart negative significand 0 else whole
  | none => whole
where
  whole : Reader Number :=
    if !negative then pure (.whole significand)
    else if significand = 0 ∨ Nat.pow 2 63 < significand then
      pure (.float (-(Float.ofNat significand)))
    else pure (.whole (-significand))

/-- A number, with the cursor at its first digit. -/
def number (negative : Bool) : Reader Number := do
  match ← peek with
  | none => failHere .endInValue
  | some '0' =>
    skip
    match ← peek with
    | some c => if c.isDigit then failNext .invalidNumber else afterWhole negative 0
    | none => afterWhole negative 0
  | some c =>
    if !c.isDigit then failNext .invalidNumber
    else
      let written ← digits
      let (kept, left) := absorb 0 written
      if left.isEmpty then afterWhole negative kept
      else
        match ← peek with
        | some '.' => fractionPart negative kept left.length
        | _ => exponentOrEnd negative kept left.length

def hexValue? (c : Char) : Option Nat :=
  if c.isDigit then some (c.toNat - 48)
  else if 'a' ≤ c ∧ c ≤ 'f' then some (c.toNat - 87)
  else if 'A' ≤ c ∧ c ≤ 'F' then some (c.toNat - 55)
  else none

/-- The cursor behind a number of bytes; a character counts as many as its encoding has. -/
def behindBytes (cursor : Cursor) (n : Nat) : Cursor :=
  match cursor with
  | ⟨[], line, column⟩ => ⟨[], line, column⟩
  | ⟨c :: rest, line, column⟩ =>
    if c.utf8Size ≤ n then behindBytes (advance ⟨c :: rest, line, column⟩ c rest) (n - c.utf8Size)
    else ⟨c :: rest, line, column + n⟩
  termination_by n
  decreasing_by have := c.utf8Size_pos; omega

/-- Four hexadecimal digits. -/
def hexEscape : Reader Nat := fun cursor =>
  let width := (cursor.rest.take 4).foldl (fun n c => n + c.utf8Size) 0
  let behind := behindBytes cursor 4
  if width < 4 then failHere .endInString behind
  else
    match cursor.rest with
    | a :: b :: c :: d :: _ =>
      match hexValue? a, hexValue? b, hexValue? c, hexValue? d with
      | some a, some b, some c, some d => .ok (((a * 16 + b) * 16 + c) * 16 + d, behind)
      | _, _, _, _ => failHere .invalidEscape behind
    | _ => failHere .invalidEscape behind

/-- The character of an escape that names it by code, the second half of a surrogate pair
included. -/
def unicodeEscape : Reader Char := do
  let first ← hexEscape
  if 0xDC00 ≤ first ∧ first ≤ 0xDFFF then failHere .loneSurrogate
  else if first < 0xD800 ∨ 0xDBFF < first then pure (Char.ofNat first)
  else
    match ← peek with
    | none => failHere .endInString
    | some c =>
      if c ≠ '\\' then failNext .endOfHexEscape
      else
        skip
        match ← peek with
        | none => failHere .endInString
        | some c =>
          if c ≠ 'u' then failNext .endOfHexEscape
          else
            skip
            let second ← hexEscape
            if second < 0xDC00 ∨ 0xDFFF < second then failHere .loneSurrogate
            else
              pure (Char.ofNat ((first - 0xD800) * 0x400 + (second - 0xDC00) + 0x10000))

def escapedChar? (c : Char) : Option Char :=
  if c = '"' ∨ c = '\\' ∨ c = '/' then some c
  else if c = 'b' then some (Char.ofNat 8)
  else if c = 'f' then some (Char.ofNat 12)
  else if c = 'n' then some '\n'
  else if c = 'r' then some '\r'
  else if c = 't' then some '\t'
  else none

/-- The character that an escape stands for, with the cursor behind the backslash. -/
def escape : Reader Char := do
  match ← peek with
  | none => failHere .endInString
  | some 'u' =>
    skip
    unicodeEscape
  | some c =>
    match escapedChar? c with
    | some escaped =>
      skip
      pure escaped
    | none => failNext .invalidEscape

/-- The rest of a quoted text, what was read before it in reverse. -/
def stringFrom : Nat → List Char → Reader String
  | 0, _ => failHere .endInString
  | fuel + 1, before => do
    match ← peek with
    | none => failHere .endInString
    | some c =>
      skip
      if c = '"' then pure (String.ofList before.reverse)
      else if c = '\\' then
        let escaped ← escape
        stringFrom fuel (escaped :: before)
      else if c.toNat < 32 then failHere .controlCharacter
      else stringFrom fuel (c :: before)

/-- A quoted text, with the cursor behind the opening quote. -/
def string : Reader String := fun cursor => stringFrom (cursor.rest.length + 1) [] cursor

/-- Moves to the next element of a list: whether there is one. -/
def nextElement (first : Bool) : Reader Bool := do
  match ← peekToken with
  | none => failNext .endInList
  | some c =>
    if c = ']' then pure false
    else if first then pure true
    else if c = ',' then
      skip
      match ← peekToken with
      | some ']' => failNext .trailingComma
      | some _ => pure true
      | none => failNext .endInValue
    else failNext .listCommaOrEndExpected

/-- Moves to the next key of an object: whether there is one. -/
def nextKey (first : Bool) : Reader Bool := do
  match ← peekToken with
  | none => failNext .endInObject
  | some c =>
    if c = '}' then pure false
    else if first then
      if c = '"' then pure true else failNext .keyNotString
    else if c = ',' then
      skip
      match ← peekToken with
      | some '"' => pure true
      | some '}' => failNext .trailingComma
      | some _ => failNext .keyNotString
      | none => failNext .endInValue
    else failNext .objectCommaOrEndExpected

/-- A key, with the cursor at its quote. -/
def key : Reader String := do
  skip
  string

/-- The colon behind a key. -/
def colon : Reader Unit := do
  match ← peekToken with
  | some ':' => skip
  | some _ => failNext .colonExpected
  | none => failNext .endInObject

/-- The closing bracket of a list. -/
def endList : Reader Unit := do
  match ← peekToken with
  | some ']' => skip
  | some ',' =>
    skip
    match ← peekToken with
    | some ']' => failNext .trailingComma
    | _ => failNext .trailingCharacters
  | some _ => failNext .trailingCharacters
  | none => failNext .endInList

/-- The closing brace of an object. -/
def endObject : Reader Unit := do
  match ← peekToken with
  | some '}' => skip
  | some ',' => failNext .trailingComma
  | some _ => failNext .trailingCharacters
  | none => failNext .endInObject

mutual

/-- A value, at most `depth` levels deep. -/
def valueWith : Nat → Nat → Reader Json
  | 0, _ => failHere .endInValue
  | fuel + 1, depth => do
    match ← peekToken with
    | none => failNext .endInValue
    | some c =>
      if c = 'n' then skip; word ['u', 'l', 'l']; pure .null
      else if c = 't' then skip; word ['r', 'u', 'e']; pure (.bool true)
      else if c = 'f' then skip; word ['a', 'l', 's', 'e']; pure (.bool false)
      else if c = '-' then
        skip
        let n ← number true
        pure (.number n)
      else if c.isDigit then
        let n ← number false
        pure (.number n)
      else if c = '"' then
        skip
        let text ← string
        pure (.string text)
      else if c = '[' then
        if depth ≤ 1 then failNext .tooDeep
        else
          skip
          let elements ← elementsWith fuel (depth - 1) true
          endList
          pure (.array elements)
      else if c = '{' then
        if depth ≤ 1 then failNext .tooDeep
        else
          skip
          let members ← membersWith fuel (depth - 1) true
          endObject
          pure (ofMembers members)
      else failNext .valueExpected

def elementsWith : Nat → Nat → Bool → Reader (List Json)
  | 0, _, _ => failHere .endInList
  | fuel + 1, depth, first => do
    if ← nextElement first then
      let element ← valueWith fuel depth
      let rest ← elementsWith fuel depth false
      pure (element :: rest)
    else pure []

/-- The members of an object, as they are written. -/
def membersWith : Nat → Nat → Bool → Reader (List (String × Json))
  | 0, _, _ => failHere .endInObject
  | fuel + 1, depth, first => do
    if ← nextKey first then
      let name ← key
      colon
      let value ← valueWith fuel depth
      let rest ← membersWith fuel depth false
      pure ((name, value) :: rest)
    else pure []

end

def valueInside (opened : Nat) : Reader Json := fun cursor =>
  valueWith (2 * cursor.rest.length + 2) (128 - opened) cursor

def value : Reader Json := valueInside 0

/-- The end of the text, blanks left aside. -/
def finish : Reader Unit := do
  match ← peekToken with
  | some _ => failNext .trailingCharacters
  | none => pure ()

def run {α : Type} (reader : Reader α) (text : String) : Except ReadError α :=
  match (do let a ← reader; finish; pure a : Reader α) ⟨text.toList, 1, 0⟩ with
  | .error e => .error e
  | .ok (a, _) => .ok a

end Reader

def read (text : String) : Except ReadError Json := Reader.value.run text

end ConsentBanner.Json

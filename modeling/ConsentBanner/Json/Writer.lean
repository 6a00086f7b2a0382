import ConsentBanner.Json.Value
import ConsentBanner.Decimal.Layout

/-!
# Writing JSON text

`Json.compact` leaves out all blanks; `Json.pretty` puts every element and member on a line of its
own, indented by two spaces per level, with empty arrays and objects closed at once.  Members are
written in the order in which they stand.
-/

set_option autoImplicit false

namespace ConsentBanner.Json

def hexDigit (n : Nat) : Char := if n < 10 then Char.ofNat (48 + n) else Char.ofNat (87 + n)

/-- A character as it stands inside a quoted text. -/
def escapeChar (c : Char) : List Char :=
  if c = '"' then ['\\', '"']
  else if c = '\\' then ['\\', '\\']
  else if c = '\n' then ['\\', 'n']
  else if c = '\r' then ['\\', 'r']
  else if c = '\t' then ['\\', 't']
  else if c.toNat = 8 then ['\\', 'b']
  else if c.toNat = 12 then ['\\', 'f']
  else if c.toNat < 32 then
    ['\\', 'u', '0', '0', hexDigit (c.toNat / 16), hexDigit (c.toNat % 16)]
  else [c]

def quote (text : String) : String :=
  "\"" ++ String.ofList (text.toList.flatMap escapeChar) ++ "\""

def Number.text : Number → String
  | .whole value => toString value
  | .float value => Decimal.Layout.json.float value

mutual

/-- The text of a value without blanks. -/
def compact : Json → String
  | .null => "null"
  | .bool b => if b then "true" else "false"
  | .number n => n.text
  | .string s => quote s
  | .array elements => "[" ++ compactElements elements ++ "]"
  | .object members => "\x7b" ++ compactMembers members ++ "\x7d"

/-- Elements with commas between them. -/
def compactElements : List Json → String
  | [] => ""
  | [element] => compact element
  | element :: rest => compact element ++ "," ++ compactElements rest

/-- Members with commas between them. -/
def compactMembers : List (String × Json) → String
  | [] => ""
  | [(key, value)] => quote key ++ ":" ++ compact value
  | (key, value) :: rest => quote key ++ ":" ++ compact value ++ "," ++ compactMembers rest

end

def lineBreak (level : Nat) : String := "\n" ++ String.ofList (List.replicate (2 * level) ' ')

mutual

/-- The text of a value over several lines, for a value that stands at this level. -/
def prettyAt (level : Nat) : Json → String
  | .null => "null"
  | .bool b => if b then "true" else "false"
  | .number n => n.text
  | .string s => quote s
  | .array [] => "[]"
  | .array (element :: rest) =>
    "[" ++ prettyElements (level + 1) (element :: rest) ++ lineBreak level ++ "]"
  | .object [] => "\x7b\x7d"
  | .object (member :: rest) =>
    "\x7b" ++ prettyMembers (level + 1) (member :: rest) ++ lineBreak level ++ "\x7d"

def prettyElements (level : Nat) : List Json → String
  | [] => ""
  | [element] => lineBreak level ++ prettyAt level element
  | element :: rest =>
    lineBreak level ++ prettyAt level element ++ "," ++ prettyElements level rest

def prettyMembers (level : Nat) : List (String × Json) → String
  | [] => ""
  | [(key, value)] => lineBreak level ++ quote key ++ ": " ++ prettyAt level value
  | (key, value) :: rest =>
    lineBreak level ++ quote key ++ ": " ++ prettyAt level value ++ "," ++
      prettyMembers level rest

end

def pretty (value : Json) : String := prettyAt 0 value

end ConsentBanner.Json

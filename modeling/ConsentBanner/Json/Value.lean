import ConsentBanner.Keyed

/-!
# JSON values

Values as they are held after reading.  Whole numbers between `-2^63` and `2^64` are exact, all
others are doubles.  The members of an object stand in ascending order of their keys, each key once;
`Json.ofMembers` builds such an object and lets the last of several members of one key win.
-/

set_option autoImplicit false

namespace ConsentBanner

inductive Json.Number where
  /-- A whole number between `-2^63` and `2^64`. -/
  | whole (value : Int)
  | float (value : Float)
  deriving Repr, BEq, Inhabited

inductive Json where
  | null
  | bool (value : Bool)
  | number (value : Json.Number)
  | string (value : String)
  | array (elements : List Json)
  | object (members : List (String × Json))
  deriving Repr, BEq, Inhabited

namespace Json

def Number.toFloat : Number → Float
  | .whole value =>
    if value < 0 then -(Float.ofNat value.natAbs) else Float.ofNat value.natAbs
  | .float value => value

def nat (n : Nat) : Json := .number (.whole n)

/-- A double as a value; one that is not finite has no number in JSON and becomes null. -/
def float (x : Float) : Json := if x.isFinite then .number (.float x) else .null

/-- A number; one that is not finite is written by its name. -/
def num (x : Float) : Json :=
  if x.isNaN then .string "NaN"
  else if x.isInf then .string (if x > 0.0 then "inf" else "-inf")
  else float x

def strings (texts : List String) : Json := .array (texts.map .string)

def orNull : Option Json → Json
  | some value => value
  | none => .null

/-- Puts a member into a list ordered by key, in place of one with the same key. -/
def insertMember (key : String) (value : Json) : Keyed String Json → Keyed String Json
  | [] => [(key, value)]
  | (k, v) :: rest =>
    if key = k then (key, value) :: rest
    else if key < k then (key, value) :: (k, v) :: rest
    else (k, v) :: insertMember key value rest

/-- The object with these members; of two with one key the later counts. -/
def ofMembers (members : List (String × Json)) : Json :=
  .object (members.foldl (fun sorted member => insertMember member.1 member.2 sorted) [])

def get? : Json → String → Option Json
  | .object members, key => Keyed.get? members key
  | _, _ => none

/-- The member of an object under a key; null if there is none. -/
def field (value : Json) (key : String) : Json := (value.get? key).getD .null

def asString? : Json → Option String
  | .string value => some value
  | _ => none

/-- The elements of an array; none of anything else. -/
def elements : Json → List Json
  | .array elements => elements
  | _ => []

/-- The members of an object; none otherwise. -/
def members : Json → Keyed String Json
  | .object members => members
  | _ => []

def texts (value : Json) : List String := value.elements.filterMap asString?

def asNat? : Json → Option Nat
  | .number (.whole n) => if n < 0 then none else some n.toNat
  | _ => none

def isTrue : Json → Bool
  | .bool value => value
  | _ => false

/-- A value counts as true in a condition of page script: everything but null, false, zero,
not-a-number and the empty text. -/
def isTruthy : Json → Bool
  | .null => false
  | .bool b => b
  | .number n => n.toFloat != 0.0 && !n.toFloat.isNaN
  | .string s => s ≠ ""
  | .array _ => true
  | .object _ => true

end Json

end ConsentBanner

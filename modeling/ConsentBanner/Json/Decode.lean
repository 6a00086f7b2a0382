import ConsentBanner.Json.DecodeError

/-!
# Decoding values into types

A `Decoder` turns a value into a member of a type or says why it cannot.  Records are written as
objects, whose members are looked at in ascending order of their keys, unknown ones being passed
over, or as arrays with the fields in order of declaration; `record` accepts both and `membersOnly`
the first.  A decoder is told whether its value was held back while a tag or other members were
read: elements left over in an array are worded differently then, and a variant may be named by its
index.
-/

set_option autoImplicit false

namespace ConsentBanner.Json

/-- Where a value comes from. -/
inductive Held where
  /-- Straight from the document. -/
  | direct
  /-- It was held back while its tag or its neighbours were read. -/
  | back
  deriving DecidableEq

abbrev Decoder (α : Type) : Type := Held → Json → Except DecodeError α

namespace Decode

/-- What a value is described as in an error. -/
def found : Json → Found
  | .null => .null
  | .bool b => .bool b
  | .number (.whole n) => .whole n
  | .number (.float x) => .float x
  | .string s => .string s
  | .array _ => .sequence
  | .object _ => .map

def mismatch {α : Type} (expected : String) (value : Json) : Except DecodeError α :=
  .error (.invalidType (found value) expected)

def bool : Decoder Bool
  | _, .bool b => .ok b
  | _, value => mismatch "a boolean" value

/-- A text. -/
def string : Decoder String
  | _, .string s => .ok s
  | _, value => mismatch "a string" value

def natural (name : String) (limit : Nat) : Decoder Nat
  | _, .number (.whole n) =>
    if n < 0 ∨ (limit : Int) < n then .error (.invalidValue (.whole n) name) else .ok n.toNat
  | _, value => mismatch name value

def nat32 : Decoder Nat := natural "u32" (Nat.pow 2 32 - 1)

def nat64 : Decoder Nat := natural "u64" (Nat.pow 2 64 - 1)

/-- A double. -/
def float : Decoder Float
  | _, .number n => .ok n.toFloat
  | _, value => mismatch "f64" value

def any : Decoder Json := fun _ value => .ok value

def option {α : Type} (inner : Decoder α) : Decoder (Option α)
  | _, .null => .ok none
  | held, value => (inner held value).map some

def each {α : Type} (inner : Decoder α) (held : Held) : List Json → Except DecodeError (List α)
  | [] => .ok []
  | element :: rest => do
    let first ← inner held element
    let others ← each inner held rest
    return first :: others

def list {α : Type} (inner : Decoder α) : Decoder (List α)
  | held, .array elements => each inner held elements
  | _, value => mismatch "a sequence" value

def table : Decoder (Keyed String Json)
  | _, .object members => .ok members
  | _, value => mismatch "a map" value

/-- The elements of an array that stand for the fields of a record. -/
structure Elements where
  rest : List Json
  taken : Nat

abbrev Positional (α : Type) : Type := StateT Elements (Except DecodeError) α

/-- The next field, or its default behind the last element. -/
def nextOr {α : Type} (default : α) (inner : Decoder α) (held : Held) : Positional α :=
  fun elements =>
    match elements.rest with
    | [] => .ok (default, elements)
    | element :: rest => (inner held element).map fun a => (a, ⟨rest, elements.taken + 1⟩)

/-- The next field; the error behind the last element names the record and its size. -/
def next {α : Type} (expected : String) (inner : Decoder α) (held : Held) : Positional α :=
  fun elements =>
    match elements.rest with
    | [] => .error (.invalidLength elements.taken expected)
    | element :: rest => (inner held element).map fun a => (a, ⟨rest, elements.taken + 1⟩)

def elementCount (n : Nat) : String :=
  if n = 1 then "1 element" else toString n ++ " elements"

/-- All fields of a record from an array that must hold nothing else. -/
def positional {α : Type} (fields : Positional α) (held : Held) (elements : List Json) :
    Except DecodeError α :=
  match fields ⟨elements, 0⟩ with
  | .error e => .error e
  | .ok (a, left) =>
    if left.rest.isEmpty then .ok a
    else
      match held with
      | .direct => .error (.invalidLength elements.length "fewer elements in array")
      | .back =>
        .error (.invalidLength elements.length (elementCount left.taken ++ " in sequence"))

def record {α : Type} (expected : String) (members : Held → Keyed String Json → Except DecodeError α)
    (elements : Held → Positional α) : Decoder α
  | held, .object given => members held given
  | held, .array given => positional (elements held) held given
  | _, value => mismatch expected value

/-- A record written as an object only. -/
def membersOnly {α : Type} (expected : String)
    (members : Held → Keyed String Json → Except DecodeError α) : Decoder α
  | held, .object given => members held given
  | _, value => mismatch expected value

def member? {α : Type} (given : Keyed String Json) (name : String) (inner : Decoder α)
    (held : Held) : Except DecodeError (Option α) :=
  match given.get? name with
  | none => .ok none
  | some value => (inner held value).map some

def memberOr {α : Type} (given : Keyed String Json) (name : String) (default : α)
    (inner : Decoder α) (held : Held) : Except DecodeError α :=
  match given.get? name with
  | none => .ok default
  | some value => inner held value

/-- A member under its second name, after the first name was looked at. -/
def memberAgain? {α : Type} (earlier : Option α) (field : String) (given : Keyed String Json)
    (name : String) (inner : Decoder α) (held : Held) : Except DecodeError (Option α) :=
  match given.get? name, earlier with
  | none, _ => .ok earlier
  | some _, some _ => .error (.duplicateField field)
  | some value, none => (inner held value).map some

/-- The value of a member that must be given. -/
def required {α : Type} (field : String) : Option α → Except DecodeError α
  | some a => .ok a
  | none => .error (.missingField field)

def variantNamed {α : Type} (variants : List (String × α)) (known : List String) (name : String) :
    Except DecodeError α :=
  match Keyed.get? variants name with
  | some a => .ok a
  | none => .error (.unknownVariant name known)

/-- A variant without content: its name, or an object with its name over null. -/
def variant {α : Type} (named : String → Except DecodeError α) : Decoder α
  | _, .string name => named name
  | _, .object [(name, content)] => do
    let a ← named name
    match content with
    | .null => return a
    | other => mismatch "unit" other
  | _, .object _ => .error (.invalidValue .map "map with a single key")
  | _, value => mismatch "string or map" value

def constant {α : Type} (variants : List (String × α)) : Decoder α :=
  variant (variantNamed variants (variants.map Prod.fst))

/-- The tag of a variant: its name, or its index if the value was held back. -/
def tag {α : Type} (variants : List (String × α)) : Decoder α
  | _, .string name => variantNamed variants (variants.map Prod.fst) name
  | .back, .number (.whole n) =>
    if n < 0 then mismatch "variant identifier" (.number (.whole n))
    else
      match variants[n.toNat]? with
      | some (_, a) => .ok a
      | none =>
        .error (.invalidValue (.whole n)
          ("variant index 0 <= i < " ++ toString variants.length))
  | _, value => mismatch "variant identifier" value

/-- A variant told by the tag among its members, or by the first element of an array.  The content
of the variant is what is left, held back. -/
def tagged {α τ : Type} (name type : String) (variants : List (String × τ))
    (content : τ → Json → Except DecodeError α) : Decoder α
  | held, .object members => do
    let found ← member? members name (tag variants) held
    let chosen ← required name found
    content chosen (.object (Keyed.erase members name))
  | _, .array [] => .error (.missingField name)
  | held, .array (first :: rest) => do
    let chosen ← tag variants held first
    content chosen (.array rest)
  | _, value => mismatch ("internally tagged enum " ++ type) value

/-- A variant without content that was told by its tag: any members, but no elements. -/
def noContent : Json → Except DecodeError Unit
  | .array (_ :: rest) =>
    .error (.invalidLength (rest.length + 1) (elementCount 0 ++ " in sequence"))
  | _ => .ok ()

/-- The first of several decoders that accepts a value that was held back. -/
def untagged {α : Type} (type : String) (alternatives : List (Decoder α)) : Decoder α :=
  fun _ value =>
    match alternatives.findSome? fun decoder => (decoder .back value).toOption with
    | some a => .ok a
    | none => .error (.custom ("data did not match any variant of untagged enum " ++ type))

end Decode

/-- How deeply lists and objects are nested. -/
def height : Json → Nat
  | .array elements => heights elements + 1
  | .object members => memberHeights members + 1
  | _ => 1
where
  heights : List Json → Nat
    | [] => 0
    | element :: rest => max (height element) (heights rest)
  memberHeights : List (String × Json) → Nat
    | [] => 0
    | (_, value) :: rest => max (height value) (memberHeights rest)

end ConsentBanner.Json

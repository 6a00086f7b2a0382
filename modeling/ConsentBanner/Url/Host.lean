import ConsentBanner.Text.Lowercase

/-!
# Hosts of addresses

A host is a name or a numeric address.  `Host.read?` says what a host text of one of the common
schemes stands for; it is nothing if the text is no host.
-/

set_option autoImplicit false

namespace ConsentBanner.Host

def hexDigit? (c : Char) : Option Nat :=
  if c.isDigit then some (c.toNat - 48)
  else if 'a' ≤ c ∧ c ≤ 'f' then some (c.toNat - 87)
  else if 'A' ≤ c ∧ c ≤ 'F' then some (c.toNat - 55)
  else none

/-- The bytes of a text whose percent signs are followed by two digits of a byte. -/
def bytesOf : List Char → List Nat
  | '%' :: a :: b :: rest =>
    match hexDigit? a, hexDigit? b with
    | some x, some y => (16 * x + y) :: bytesOf rest
    | _, _ => 37 :: bytesOf (a :: b :: rest)
  | c :: rest => (String.singleton c).toUTF8.toList.map UInt8.toNat ++ bytesOf rest
  | [] => []

/-- The text of bytes, if they are well formed. -/
def textOf? (bytes : List Nat) : Option String :=
  String.fromUTF8? ⟨(bytes.map UInt8.ofNat).toArray⟩

/-- The parts of a text between points. -/
def parts : List Char → List (List Char)
  | [] => [[]]
  | c :: rest =>
    if c = '.' then [] :: parts rest
    else
      match parts rest with
      | [] => [[c]]
      | first :: more => (c :: first) :: more

def numberOf? (base : Nat) (digits : List Char) : Option Nat :=
  digits.foldl
    (fun number c =>
      match number, hexDigit? c with
      | some n, some d => if d < base then some (base * n + d) else none
      | _, _ => none) (some 0)

/-- One part of a numeric address: decimal, octal behind a zero or hexadecimal behind `0x`. -/
def numericPart? : List Char → Option Nat
  | [] => none
  | ['0'] => some 0
  | '0' :: 'x' :: digits => numberOf? 16 digits
  | '0' :: 'X' :: digits => numberOf? 16 digits
  | '0' :: digits => numberOf? 8 digits
  | digits => numberOf? 10 digits

/-- The parts without an empty one at the end. -/
def significantParts (name : List Char) : List (List Char) :=
  let all := parts name
  if all.getLast? = some [] then all.dropLast else all

def endsInNumber (name : List Char) : Bool :=
  match (significantParts name).getLast? with
  | none => false
  | some last => (!last.isEmpty && last.all Char.isDigit) || (numericPart? last).isSome

/-- The parts of a numeric address fit: at most four, each before the last a byte, and the last one
no larger than what is left. -/
def isNumericAddress (name : List Char) : Bool :=
  let numbers := (significantParts name).map numericPart?
  let values := numbers.filterMap fun n => n
  match values.reverse with
  | [] => false
  | last :: before =>
    numbers.length ≤ 4 && values.length = numbers.length && before.all (· ≤ 255) &&
      last < Nat.pow 256 (4 - before.length)

/-- Reads up to four hexadecimal digits. -/
def group (text : List Char) : Nat × List Char :=
  let digits := (text.take 4).takeWhile fun c => (hexDigit? c).isSome
  (digits.length, text.drop digits.length)

def isByteQuad (text : List Char) : Bool :=
  let all := parts text
  all.length = 4 && all.all fun part =>
    !part.isEmpty && part.all Char.isDigit && (part.length = 1 || part.head? ≠ some '0') &&
      (numberOf? 10 part).any (· ≤ 255)

/-- The rest of a numeric address in groups, given how many there were and whether some were left
out. -/
def areGroups : Nat → Nat → Bool → List Char → Bool
  | 0, _, _, _ => false
  | fuel + 1, count, shortened, text =>
    match text with
    | [] => if shortened then count ≤ 8 else count = 8
    | ':' :: rest => count < 8 && !shortened && areGroups fuel (count + 1) true rest
    | _ =>
      if 8 ≤ count then false
      else if text.contains '.' && !text.contains ':' then
        isByteQuad text && count ≤ 6 && areGroups fuel (count + 2) shortened []
      else
        match group text with
        | (0, _) => false
        | (_, []) => areGroups fuel (count + 1) shortened []
        | (_, ':' :: rest) => !rest.isEmpty && areGroups fuel (count + 1) shortened rest
        | _ => false

def isGroupedAddress (text : List Char) : Bool :=
  match text with
  | ':' :: ':' :: rest => areGroups (text.length + 2) 1 true rest
  | ':' :: _ => false
  | _ => areGroups (text.length + 2) 0 false text

def isForbidden (c : Char) : Bool :=
  c.toNat ≤ 32 || c.toNat = 127 || "%#/:<>?@[\\]^|".toList.contains c

/-- The host that a text stands for in an address of one of the common schemes. -/
def read? (text : List Char) : Option String :=
  match text with
  | '[' :: rest =>
    match rest.reverse with
    | ']' :: inside =>
      if isGroupedAddress inside.reverse then some (String.ofList text) else none
    | _ => none
  | _ => do
    let name := Text.lower (← textOf? (bytesOf text))
    if name.isEmpty || name.toList.any isForbidden then none
    else if endsInNumber name.toList && !isNumericAddress name.toList then none
    else return name

def isForbiddenElsewhere (c : Char) : Bool :=
  c.toNat = 0 || " #/:<>?@[\\]^|".toList.contains c

/-- The host that a text stands for in an address of another scheme. -/
def readElsewhere? (text : List Char) : Option String :=
  match text with
  | '[' :: _ => read? text
  | _ => if text.any isForbiddenElsewhere then none else some (String.ofList text)

end ConsentBanner.Host

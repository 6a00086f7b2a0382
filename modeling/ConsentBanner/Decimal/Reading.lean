/-!
# Reading decimal text

`Float.ofDecimal` rounds `significand · 10 ^ exponent` to the nearest double, whatever the size of
the exponent.  `readFloat?` reads the usual written forms: an optional sign, digits with an
optional point on either side, an optional exponent, and the words for infinity and not-a-number in
any letter case.
-/

set_option autoImplicit false

namespace ConsentBanner.Decimal

/-- The quotient rounded to the nearest whole number, a half to the even one. -/
def roundHalfEven (num den : Nat) : Nat :=
  let whole := num / den
  let twice := 2 * (num % den)
  if twice < den then whole
  else if den < twice then whole + 1
  else if whole % 2 = 0 then whole else whole + 1

/-- The bits of the double nearest to a positive fraction, ties to even; infinity from half a step
above the largest double on. -/
def nearestBits (num den : Nat) : Nat :=
  let size : Int := (num.log2 : Int) - (den.log2 : Int)
  let fits (e : Int) : Bool :=
    num * Nat.pow 2 (-e).toNat < den * Nat.pow 2 e.toNat * Nat.pow 2 53
  let normal : Int := if fits (size - 53) then size - 53 else size - 52
  let exponent : Int := max normal (-1074)
  let mantissa := roundHalfEven (num * Nat.pow 2 (-exponent).toNat) (den * Nat.pow 2 exponent.toNat)
  let biased : Nat := (exponent + 1074).toNat
  if 2046 ≤ biased then 2047 * Nat.pow 2 52
  else min (biased * Nat.pow 2 52 + mantissa) (2047 * Nat.pow 2 52)

def ofDecimal (significand : Nat) (exponent : Int) : Float :=
  let length := (Nat.toDigits 10 significand).length
  if significand = 0 then 0.0
  else if 400 < exponent + length then 1.0 / 0.0
  else if exponent + length < -400 then 0.0
  else
    let bits := nearestBits (significand * Nat.pow 10 exponent.toNat) (Nat.pow 10 (-exponent).toNat)
    Float.ofBits bits.toUInt64

def digit? (c : Char) : Option Nat := if c.isDigit then some (c.toNat - 48) else none

/-- The number that a row of digits writes, continuing an earlier one. -/
def numberFrom (start : Nat) (digits : List Char) : Nat :=
  digits.foldl (fun n c => 10 * n + (c.toNat - 48)) start

def spanDigits (text : List Char) : List Char × List Char :=
  (text.takeWhile Char.isDigit, text.dropWhile Char.isDigit)

/-- The exponent part that ends a number: nothing, or `e` with an optional sign and digits. -/
def readExponent? : List Char → Option Int
  | [] => some 0
  | c :: rest =>
    if c = 'e' ∨ c = 'E' then
      let (negative, digits) :=
        match rest with
        | '+' :: more => (false, more)
        | '-' :: more => (true, more)
        | more => (false, more)
      if digits.isEmpty ∨ !digits.all Char.isDigit then none
      else
        let value : Int := numberFrom 0 digits
        some (if negative then -value else value)
    else none

def readUnsigned? (text : List Char) : Option Float :=
  let word := String.ofList (text.map Char.toLower)
  if word = "inf" ∨ word = "infinity" then some (1.0 / 0.0)
  else if word = "nan" then some (0.0 / 0.0)
  else
    let (whole, rest) := spanDigits text
    let (fraction, rest) :=
      match rest with
      | '.' :: more => spanDigits more
      | more => ([], more)
    if whole.isEmpty ∧ fraction.isEmpty then none
    else
      match readExponent? rest with
      | none => none
      | some exponent =>
        some (ofDecimal (numberFrom (numberFrom 0 whole) fraction) (exponent - fraction.length))

/-- Reads a number written in decimal; nothing if the text is anything else. -/
def readFloat? (text : String) : Option Float :=
  match text.toList with
  | '+' :: rest => readUnsigned? rest
  | '-' :: rest => (readUnsigned? rest).map fun x => -x
  | rest => readUnsigned? rest

end ConsentBanner.Decimal

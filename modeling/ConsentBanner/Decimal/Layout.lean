import ConsentBanner.Decimal.Digits

/-!
# Laying out a decimal number

`Layout` is the record of choices that turn digits into text: from which to which magnitude the
positional form is used and how an exponent is written.  `Layout.json` is the form of numbers in
JSON text: `30.0`, `0.1`, `1e+16`, `1e-7`.
-/

set_option autoImplicit false

namespace ConsentBanner.Decimal

/-- How a decimal is written. -/
structure Layout where
  /-- The positional form is used when the decimal point stands right of this place … -/
  above : Int
  /-- … and at most at this one. -/
  upTo : Int
  /-- A whole number in positional form ends in `.0`. -/
  wholeMark : Bool
  /-- What stands between the digits and a positive exponent. -/
  exponentUp : String
  /-- What stands between the digits and the absolute value of a negative exponent. -/
  exponentDown : String

/-- Numbers in JSON text are positional from `0.00001` up to sixteen places before the point. -/
def Layout.json : Layout := ⟨-5, 16, true, "e+", "e-"⟩

def digitText (digits : List Nat) : String :=
  String.ofList (digits.map fun d => Char.ofNat (48 + d))

def zeros (n : Nat) : String := String.ofList (List.replicate n '0')

/-- The text of a positive decimal. -/
def Layout.write (layout : Layout) (decimal : Digits) : String :=
  let count := decimal.digits.length
  let point := decimal.point
  if layout.above < point ∧ point ≤ layout.upTo then
    if (count : Int) ≤ point then
      digitText decimal.digits ++ zeros (point - count).toNat ++
        (if layout.wholeMark then ".0" else "")
    else if 0 < point then
      digitText (decimal.digits.take point.toNat) ++ "." ++
        digitText (decimal.digits.drop point.toNat)
    else
      "0." ++ zeros (-point).toNat ++ digitText decimal.digits
  else
    let lead := digitText (decimal.digits.take 1)
    let rest := decimal.digits.drop 1
    let mark := if rest.isEmpty then "" else "."
    let exponent := point - 1
    lead ++ mark ++ digitText rest ++
      (if 0 ≤ exponent then layout.exponentUp else layout.exponentDown) ++
      toString exponent.natAbs

/-- The text of a finite double. -/
def Layout.float (layout : Layout) (x : Float) : String :=
  let sign := if x.toBits.toNat / Nat.pow 2 63 = 1 then "-" else ""
  if x == 0.0 then sign ++ (if layout.wholeMark then "0.0" else "0")
  else sign ++ layout.write (Digits.ofFloat x)

end ConsentBanner.Decimal

/-!
# The shortest decimal that reads back

A finite double is `mantissa · 2 ^ exponent` exactly, and the reals that round to it form an
interval around it.  `Digits.ofFloat` looks for the coarsest decimal grid with a point in that
interval and takes the point nearest to the value.  The search runs over grids of one, two, …
seventeen digits, in exact arithmetic; a grid has a point in the interval only if one of the two
neighbours of the value on it lies there.
-/

set_option autoImplicit false

namespace ConsentBanner.Decimal

/-- A positive decimal `0.d₁d₂… · 10 ^ point` with neither leading nor trailing zeros. -/
structure Digits where
  digits : List Nat
  point : Int
  deriving DecidableEq, Repr

/-- Decimal digits of a number, most significant first; none for zero. -/
def digitsOf (n : Nat) : List Nat :=
  if n = 0 then [] else (Nat.toDigits 10 n).map fun c => c.toNat - 48

/-- A nonnegative double as an exact `mantissa · 2 ^ exponent`. -/
structure Binary where
  mantissa : Nat
  exponent : Int
  /-- The neighbour below is only half as far as the one above. -/
  narrowBelow : Bool
  deriving DecidableEq, Repr

/-- The exact value of a finite double, its sign left aside. -/
def Binary.ofBits (bits : Nat) : Binary :=
  let fraction : Nat := bits % Nat.pow 2 52
  let biased : Nat := bits / Nat.pow 2 52 % Nat.pow 2 11
  if biased = 0 then ⟨fraction, -1074, false⟩
  else ⟨fraction + Nat.pow 2 52, (biased : Int) - 1075, fraction = 0 && 1 < biased⟩

/-- The least `e` with `num / den < 10 ^ e`, for a positive fraction. -/
def magnitude (num den : Nat) : Int :=
  if den ≤ num then (digitsOf (num / den)).length
  else
    let inverse := (den + num - 1) / num
    1 - ((digitsOf (inverse - 1)).length : Int)

/-- The interval of a double and the value in it, all multiplied by the same positive number. -/
structure Window where
  low : Nat
  value : Nat
  high : Nat
  closed : Bool

/-- A point lies in the interval. -/
def Window.holds (window : Window) (point : Nat) : Bool :=
  if window.closed then window.low ≤ point && point ≤ window.high
  else window.low < point && point < window.high

/-- The point of the grid of this unit that lies in the interval nearest to the value; of two
equally near ones the even multiple. -/
def Window.nearest? (window : Window) (unit : Nat) : Option Nat :=
  let below := window.value / unit
  let above := below + 1
  let belowFits := window.holds (below * unit)
  let aboveFits := window.holds (above * unit)
  if belowFits && aboveFits then
    let down := window.value - below * unit
    let up := above * unit - window.value
    if down < up then some below
    else if up < down then some above
    else if below % 2 = 0 then some below else some above
  else if belowFits then some below
  else if aboveFits then some above
  else none

/-- The digits of a positive exact value, tried with `count`, `count + 1`, … digits. -/
def Binary.digitsFrom (binary : Binary) (size : Int) : Nat → Nat → Digits
  | 0, _ => ⟨[], 0⟩
  | fuel + 1, count =>
    let grid : Int := size - count
    let up : Int := binary.exponent - 2
    let scale := Nat.pow 2 up.toNat * Nat.pow 10 (-grid).toNat
    let unit := Nat.pow 2 (-up).toNat * Nat.pow 10 grid.toNat
    let window : Window :=
      { low := (4 * binary.mantissa - (if binary.narrowBelow then 1 else 2)) * scale
        value := 4 * binary.mantissa * scale
        high := (4 * binary.mantissa + 2) * scale
        closed := binary.mantissa % 2 = 0 }
    match window.nearest? unit with
    | some multiple =>
      if multiple = 0 then binary.digitsFrom size fuel (count + 1)
      else
        let digits := digitsOf multiple
        let kept := (digits.reverse.dropWhile (· = 0)).reverse
        ⟨kept, grid + digits.length⟩
    | none => binary.digitsFrom size fuel (count + 1)

/-- The shortest decimal that reads back as a positive finite double. -/
def Digits.ofFloat (x : Float) : Digits :=
  let binary := Binary.ofBits (x.abs.toBits.toNat)
  let size :=
    magnitude (binary.mantissa * Nat.pow 2 binary.exponent.toNat) (Nat.pow 2 (-binary.exponent).toNat)
  binary.digitsFrom size 18 1

end ConsentBanner.Decimal

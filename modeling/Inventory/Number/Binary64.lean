import Inventory.Json.Number
import Inventory.Number.Shortest
/-!
# Double-precision numbers

A finite double is kept as exact naturals: a sign, a significand below `2^53` and a binary
exponent, the value being `(-1)^negative · significand · 2^exponent`. Two operations carry
decimal numbers across:

* `Binary64.ofDecimal` rounds an exact decimal to the nearest double, a tie going to the even
  significand, and reports a magnitude that rounds past the largest finite double;
* `Binary64.shortest` finds the decimal with the fewest significant digits that rounds back to
  the same double, by the search of `Inventory.Number.Shortest`.

Everything is computed in `Nat` and `Int`; no runtime floating point is involved.
-/

set_option autoImplicit false

namespace Inventory

/-- A finite double: `(-1)^negative · significand · 2^exponent`. -/
structure Binary64 where
  negative : Bool
  significand : Nat
  exponent : Int
  deriving DecidableEq, Repr

namespace Binary64

/-- The least binary exponent, that of the subnormal numbers. -/
def minExponent : Int := -1074

/-- The greatest binary exponent of a finite double. -/
def maxExponent : Int := 971

/-- The least significand of a normal double. -/
def hidden : Nat := Nat.pow 2 52

/-- A zero of the given sign. -/
def zero (negative : Bool) : Binary64 := ⟨negative, 0, minExponent⟩

/-- The value is zero. -/
def isZero (x : Binary64) : Bool := x.significand == 0

/-- `n / d` rounded to the nearest natural, a tie going to the even one. -/
def divRound (n d : Nat) : Nat :=
  let q := n / d
  let r := n % d
  if 2 * r > d || (2 * r == d && q % 2 == 1) then q + 1 else q

/-- `n / d · 2^-e` as a fraction of naturals. -/
def scaled (n d : Nat) (e : Int) : Nat × Nat :=
  if e ≥ 0 then (n, d * Nat.pow 2 e.toNat) else (n * Nat.pow 2 (-e).toNat, d)

/-- **Rounding a positive fraction** `n / d` to a double's significand and exponent, or `none`
when it rounds past the largest finite double. -/
def roundFraction (n d : Nat) : Option (Nat × Int) :=
  if n = 0 then some (0, minExponent)
  else
    -- `n / d / 2^e0` lies in `[2^51, 2^53)`; one step down puts it in `[2^52, 2^53)`
    let e0 : Int := (Nat.log2 n : Int) - (Nat.log2 d : Int) - 52
    let (a, b) := scaled n d e0
    let e1 := if a < b * hidden then e0 - 1 else e0
    let e := max e1 minExponent
    let (a, b) := scaled n d e
    let m := divRound a b
    let (m, e) := if m = Nat.pow 2 53 then (hidden, e + 1) else (m, e)
    if e > maxExponent then none else some (m, e)

/-- **Reading a decimal**: the nearest double, or `none` when the magnitude rounds to
infinity. Magnitudes below `10^-330` round to zero without computing their powers. -/
def ofDecimal (x : Json.Decimal) : Option Binary64 :=
  if x.mantissa = 0 then some (zero x.negative)
  else
    let top : Int := (Json.decimalWidth x.mantissa : Int) + x.exponent
    if top > 310 then none
    else if top < -330 then some (zero x.negative)
    else
      let r := if x.exponent ≥ 0 then roundFraction (x.mantissa * Nat.pow 10 x.exponent.toNat) 1
        else roundFraction x.mantissa (Nat.pow 10 (-x.exponent).toNat)
      r.map fun (m, e) => ⟨x.negative, m, e⟩

/-! ## The integer and fraction parts -/

/-- The integer part, rounded toward zero. -/
def truncate (x : Binary64) : Int :=
  let mag : Nat := if x.exponent ≥ 0 then x.significand * Nat.pow 2 x.exponent.toNat
    else x.significand / Nat.pow 2 (-x.exponent).toNat
  if x.negative then -(mag : Int) else mag

/-- The magnitude of the fraction part as a fraction of naturals. -/
def fractionPart (x : Binary64) : Nat × Nat :=
  if x.exponent ≥ 0 then (0, 1)
  else
    let d := Nat.pow 2 (-x.exponent).toNat
    (x.significand % d, d)

/-! ## The shortest decimal -/

/-- The rounding interval of a nonzero double: half a unit on each side, the gap below a
power of two being half the gap above it, the ends included for an even significand. -/
def window (x : Binary64) : Window :=
  { mantissa := x.significand
    exponent := x.exponent
    lowerGap := if x.significand == hidden && x.exponent > minExponent then 1 else 2
    closed := x.significand % 2 == 0 }

/-- **The shortest decimal** of a nonzero double's magnitude: digits `c` without trailing zeros
and an exponent `p`, the value being `c · 10^p`. Seventeen digits always suffice. -/
def shortest (x : Binary64) : Nat × Int := x.window.shortest 17

end Binary64

end Inventory

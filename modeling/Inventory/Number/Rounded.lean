import Inventory.Number.Shortest
import Inventory.Json.Number
/-!
# Exact numbers and their general text

Schema bounds and instance numbers are compared as exact rationals, read from their decimal
literals. A literal whose decimal exponent, net of its fraction digits, exceeds a million in
magnitude is not read, so no power beyond `10^1000000` is ever built.

Messages show a bound as a binary number of the rational's own precision: as many bits as the
longer of its numerator and denominator, and at least 64. The rational is rounded to that many
significant bits (to nearest, a tie to even) and written with the fewest significant digits
that round back to the same binary number, the interval around it being half a unit on each
side. The text is positional when the decimal exponent lies between `-4` and `5`, and otherwise
`d.ddde±XX` with at least two exponent digits.
-/

set_option autoImplicit false

namespace Inventory

/-- The exact value of a decimal, unless its exponent exceeds a million in magnitude. -/
def Json.Decimal.toRat? (d : Json.Decimal) : Option Rat :=
  if d.exponent.natAbs > 1000000 then none
  else
    let m : Int := if d.negative then -(d.mantissa : Int) else d.mantissa
    if d.exponent ≥ 0 then some ((m * Int.pow 10 d.exponent.toNat : Int) : Rat)
    else some (mkRat m (Nat.pow 10 (-d.exponent).toNat))

/-- The number of bits of a natural. -/
def bitLength (n : Nat) : Nat := if n = 0 then 0 else Nat.log2 n + 1

/-- **Rounding to `prec` bits**: `n / d` as `m · 2^e` with `2^(prec-1) ≤ m < 2^prec`, rounded to
nearest with ties to even; for positive `n` and `d`. -/
def roundBits (n d prec : Nat) : Nat × Int :=
  let e0 : Int := (bitLength n : Int) - (bitLength d : Int) - (prec : Int) + 1
  let scale (e : Int) : Nat × Nat := if e ≥ 0 then (n, d * Nat.pow 2 e.toNat) else (n * Nat.pow 2 (-e).toNat, d)
  -- `n / d / 2^e0` lies in `[2^(prec-2), 2^prec)`
  let (a, b) := scale e0
  let e := if a < b * Nat.pow 2 (prec - 1) then e0 - 1 else e0
  let (a, b) := scale e
  let q := a / b
  let r := a % b
  let m := if 2 * r > b || (2 * r == b && q % 2 == 1) then q + 1 else q
  if m = Nat.pow 2 prec then (Nat.pow 2 (prec - 1), e + 1) else (m, e)

/-- The precision a rational is given: the bit length of the longer of its numerator and
denominator, at least 64. -/
def precisionOf (q : Rat) : Nat := max (max (bitLength q.num.natAbs) (bitLength q.den)) 64

/-- Digits `ds` with the decimal point after `point` of them (`point` may lie outside). -/
def positional (ds : List Char) (point : Int) : String :=
  if point ≤ 0 then
    String.ofList ('0' :: '.' :: List.replicate (-point).toNat '0' ++ ds)
  else
    let n := point.toNat
    let whole := ds.take n ++ List.replicate (n - ds.length) '0'
    let frac := ds.drop n
    String.ofList (if frac.isEmpty then whole else whole ++ '.' :: frac)

/-- Digits `ds` in exponent form `d.ddde±XX`, the exponent with at least `width` digits. -/
def scientific (ds : List Char) (exp : Int) (width : Nat) : String :=
  let mant := match ds with
    | d :: rest@(_ :: _) => d :: '.' :: rest
    | _ => ds
  let digits := Nat.toDigits 10 exp.natAbs
  let digits := List.replicate (width - digits.length) '0' ++ digits
  String.ofList (mant ++ 'e' :: (if exp < 0 then '-' else '+') :: digits)

/-- **The general text** of a rational as a binary number of its own precision. -/
def generalText (q : Rat) : String :=
  if q.num = 0 then "0"
  else
    let prec := precisionOf q
    let (m, e) := roundBits q.num.natAbs q.den prec
    let (c, p) := (Window.mk m e 2 (m % 2 == 0)).shortest (prec * 31 / 100 + 3)
    let (ds, point) := decimalDigits c p
    let exp := point - 1
    let body := if exp < -4 || exp ≥ 6 then scientific ds exp 2 else positional ds point
    (if q.num < 0 then "-" else "") ++ body

end Inventory

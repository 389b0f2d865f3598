/-!
# The shortest decimal in a rounding interval

A binary number with a fixed number of significant bits stands for every real that rounds to
it: an interval around the value whose ends lie half a unit in the last place away. The
shortest decimal that names the number is the one with the fewest significant digits inside
that interval.

A `Window` describes the interval in units of `2^(exponent - 2)`: the value is `4 · mantissa`,
the upper end `4 · mantissa + 2`, and the lower end `4 · mantissa - lowerGap`; the gap below is
`2` (half a unit), or `1` at a power of two whose lower neighbour has a finer unit. The ends
belong to the interval when `closed` holds.

`Window.shortest` tries `1, 2, …` significant digits. With `k` digits it takes the value's two
neighbours on the grid `10^p` that has `k` digits before the value's leading digit position;
the first `k` with a neighbour inside wins, and of two neighbours inside, the nearer, a tie
going to the even digit string. All arithmetic is exact on naturals.
-/

set_option autoImplicit false

namespace Inventory

/-- A rounding interval around a positive binary number, in units of `2^(exponent - 2)`. -/
structure Window where
  mantissa : Nat
  exponent : Int
  lowerGap : Nat
  closed : Bool
  deriving DecidableEq, Repr

namespace Window

/-- Compare `a · 10^p` with `b · 2^s`. -/
def compareScaled (a : Nat) (p : Int) (b : Nat) (s : Int) : Ordering :=
  compare (a * Nat.pow 10 p.toNat * Nat.pow 2 (-s).toNat) (b * Nat.pow 2 s.toNat * Nat.pow 10 (-p).toNat)

/-- `⌊b · 2^s / 10^p⌋`. -/
def floorScaled (b : Nat) (s p : Int) : Nat :=
  b * Nat.pow 2 s.toNat * Nat.pow 10 (-p).toNat / (Nat.pow 2 (-s).toNat * Nat.pow 10 p.toNat)

/-- The exponent `n` with `10^n ≤ b · 2^s < 10^(n+1)`, for positive `b`: an estimate from the
binary length, corrected by exact comparison. -/
def decimalExponent (b : Nat) (s : Int) : Int :=
  let est : Int := ((Nat.log2 b : Int) + s) * 30103 / 100000
  let n := if compareScaled 1 est b s == .gt then est - 1 else est
  let n := if compareScaled 1 (n + 1) b s != .gt then n + 1 else n
  if compareScaled 1 n b s == .gt then n - 1 else n

/-- The scale of the units: `2^(exponent - 2)`. -/
def unit (w : Window) : Int := w.exponent - 2

/-- The value in units. -/
def value (w : Window) : Nat := 4 * w.mantissa

/-- A decimal `c · 10^p` lies in the interval. -/
def contains (w : Window) (c : Nat) (p : Int) : Bool :=
  let above := match compareScaled c p (w.value - w.lowerGap) w.unit with
    | .gt => true
    | .eq => w.closed
    | .lt => false
  let below := match compareScaled c p (w.value + 2) w.unit with
    | .lt => true
    | .eq => w.closed
    | .gt => false
  above && below

/-- The decimal with `k` significant digits that lies in the interval, if any. -/
def candidate (w : Window) (k : Nat) : Option (Nat × Int) :=
  let p := decimalExponent w.value w.unit - (k : Int) + 1
  let c := floorScaled w.value w.unit p
  match w.contains c p, w.contains (c + 1) p with
  | true, true =>
    -- the midpoint `(c + 1/2) · 10^p` against the value
    match compareScaled (2 * c + 1) p (2 * w.value) w.unit with
    | .lt => some (c + 1, p)
    | .gt => some (c, p)
    | .eq => some (if c % 2 == 0 then c else c + 1, p)
  | true, false => some (c, p)
  | false, true => some (c + 1, p)
  | false, false => none

/-- Strip trailing zeros from `c · 10^p`. -/
def normalize (c : Nat) (p : Int) : Nat → Nat × Int
  | 0 => (c, p)
  | fuel + 1 => if c ≠ 0 && c % 10 == 0 then normalize (c / 10) (p + 1) fuel else (c, p)

/-- **The shortest decimal** in the interval of a positive number: digits `c` without trailing
zeros and an exponent `p`, standing for `c · 10^p`. At most `maxDigits` digits are tried; the
value's own expansion to that many digits is the fallback. -/
def shortest (w : Window) (maxDigits : Nat) : Nat × Int :=
  let found := (List.range maxDigits).findSome? fun i => w.candidate (i + 1)
  let fallback := (floorScaled w.value w.unit (decimalExponent w.value w.unit - maxDigits + 1),
    decimalExponent w.value w.unit - maxDigits + 1)
  let (c, p) := found.getD fallback
  normalize c p (Nat.log2 c + 1)

end Window

/-- Decimal digits `c · 10^p` as a digit string and the position of the decimal point: the
value is `0.d₁d₂… · 10^point`. -/
def decimalDigits (c : Nat) (p : Int) : List Char × Int :=
  let ds := Nat.toDigits 10 c
  (ds, p + ds.length)

end Inventory

import Inventory.Json.Value
/-!
# Number literals

A JSON number literal is `-?(0|[1-9][0-9]*)(.[0-9]+)?([eE][+-]?[0-9]+)?`. This module reads
such a literal as an exact decimal, `(-1)^s · m · 10^e` with natural `m` and integer `e`, and
decides the two questions the rest of the library asks of a literal:

* `isLiteral`: is a text a literal at all (writing refuses any other text as a number);
* `Decimal.exceedsDouble`: does the value round to infinity as a double-precision float, that
  is, is its magnitude at least `2^1024 - 2^970`, the midpoint between the largest finite
  double and `2^1024` (a tie rounds to the even significand, which is `2^1024`).

Exponents are compared before any power is computed, so literals such as `1e99999999999` are
decided without building their value.
-/

set_option autoImplicit false

namespace Inventory.Json

/-- A decimal digit character. -/
def isDigitChar (c : Char) : Bool := '0' ≤ c && c ≤ '9'

/-- After the integer part: an optional fraction and exponent, then the end. -/
def fractionAndExponent (r : List Char) : Bool :=
  let r := match r with
    | '.' :: d :: more => if isDigitChar d then more.dropWhile isDigitChar else r
    | _ => r
  match r with
  | [] => true
  | e :: more =>
    if e = 'e' || e = 'E' then
      let digits := match more with
        | '+' :: x => x
        | '-' :: x => x
        | x => x
      match digits with
      | d :: x => isDigitChar d && (x.dropWhile isDigitChar).isEmpty
      | [] => false
    else false

/-- **The number grammar.** The text is a JSON number literal. -/
def isLiteral (s : String) : Bool :=
  let cs := match s.toList with
    | '-' :: r => r
    | r => r
  match cs with
  | '0' :: r => fractionAndExponent r
  | c :: r => '1' ≤ c && c ≤ '9' && fractionAndExponent (r.dropWhile isDigitChar)
  | [] => false

/-- An exact decimal `(-1)^negative · mantissa · 10^exponent`. -/
structure Decimal where
  negative : Bool
  mantissa : Nat
  exponent : Int
  deriving Repr, DecidableEq

/-- The number a string of decimal digits spells. -/
def digitsValue (ds : List Char) : Nat :=
  ds.foldl (fun acc d => acc * 10 + (d.toNat - 48)) 0

/-- The exact value of a number literal (the text must be one). -/
def Decimal.ofLiteral (s : String) : Decimal :=
  let (neg, cs) := match s.toList with
    | '-' :: r => (true, r)
    | r => (false, r)
  let intPart := cs.takeWhile isDigitChar
  let r := cs.dropWhile isDigitChar
  let (frac, r) := match r with
    | '.' :: more => (more.takeWhile isDigitChar, more.dropWhile isDigitChar)
    | _ => ([], r)
  let expValue : Int := match r with
    | _ :: '-' :: ds => -(digitsValue ds : Int)
    | _ :: '+' :: ds => digitsValue ds
    | _ :: ds => digitsValue ds
    | [] => 0
  { negative := neg, mantissa := digitsValue (intPart ++ frac),
    exponent := expValue - frac.length }

/-- The number of decimal digits of a positive number. -/
def decimalWidth (n : Nat) : Nat := (Nat.toDigits 10 n).length

/-- The least magnitude that rounds to infinity as a double: `2^1024 - 2^970`. -/
def overflowThreshold : Nat := Nat.pow 2 1024 - Nat.pow 2 970

/-- **Overflow.** The magnitude rounds to infinity as a double. -/
def Decimal.exceedsDouble (d : Decimal) : Bool :=
  if d.mantissa = 0 then false
  else
    let top : Int := (decimalWidth d.mantissa : Int) - 1 + d.exponent
    if top ≥ 309 then true
    else if top ≤ 307 then false
    else if d.exponent ≥ 0 then d.mantissa * Nat.pow 10 d.exponent.toNat ≥ overflowThreshold
    else d.mantissa ≥ overflowThreshold * Nat.pow 10 (-d.exponent).toNat

end Inventory.Json

import Inventory.Text.Utf8
/-!
# Reading numbers from the front of a text

Command-line tools read numeric arguments the way the C library's `strto*` functions do, and
report what was left over. This module reads the same way:

* white space (space, tab, line feed, vertical tab, form feed, carriage return) is skipped,
  then an optional sign;
* an **integer** in base 0 is hexadecimal after `0x` or `0X` (when a hexadecimal digit
  follows), octal after a leading `0`, and decimal otherwise; in base 10 it is decimal only.
  A magnitude beyond the type's range reads as the nearest bound and is flagged;
* a **real** is `inf` or `infinity`, `nan` with an optional parenthesized tail, a hexadecimal
  significand after `0x` with an optional binary exponent `p±d`, or a decimal significand with an
  optional exponent `e±d` (letters in either case). It is rounded to the nearest binary number
  with the given number of significand bits, a tie going to the even significand. A magnitude
  past the largest finite number reads as infinity, and one that rounds below the normal range
  inexactly is flagged too.

A reading that finds no number reads nothing: it used no bytes, not even the skipped space.
-/

set_option autoImplicit false

namespace Inventory.Number

/-- What reading the front of a text gives: the value, how many bytes the number took (zero
when there was none), and whether the value lay out of range. -/
structure Reading (α : Type) where
  value : α
  used : Nat
  outOfRange : Bool := false
  deriving Repr

/-- White space as the C library classifies it. -/
def isSpace (c : UInt8) : Bool :=
  c == 0x20 || c == 0x09 || c == 0x0A || c == 0x0B || c == 0x0C || c == 0x0D

/-- The value of a digit in bases up to 16, if it is one. -/
def digitValue? (c : UInt8) : Option Nat :=
  if 0x30 ≤ c && c ≤ 0x39 then some (c.toNat - 0x30)
  else if 0x61 ≤ c && c ≤ 0x66 then some (c.toNat - 0x61 + 10)
  else if 0x41 ≤ c && c ≤ 0x46 then some (c.toNat - 0x41 + 10)
  else none

/-- A digit of a base. -/
def isDigitIn (base : Nat) (c : UInt8) : Bool :=
  match digitValue? c with
  | some v => v < base
  | none => false

/-- The value of digits in a base. -/
def digitsValue (base : Nat) (ds : Bytes) : Nat :=
  ds.foldl (fun acc d => acc * base + (digitValue? d).getD 0) 0

/-- The space and sign before a number: how many bytes they take and whether the sign is minus. -/
def signPrefix (s : Bytes) : Nat × Bool :=
  let sp := (s.takeWhile isSpace).length
  match s.drop sp with
  | 0x2D :: _ => (sp + 1, true)
  | 0x2B :: _ => (sp + 1, false)
  | _ => (sp, false)

/-- **The magnitude of an integer** after space and sign: the base, the digits, and how many
bytes the prefix and digits take from the start of `rest`. -/
def integerDigits (base : Nat) (rest : Bytes) : Nat × Bytes × Nat :=
  if base == 0 || base == 16 then
    match rest with
    | 0x30 :: x :: more =>
      if (x == 0x78 || x == 0x58) && (more.head?.map (isDigitIn 16)).getD false then
        let ds := more.takeWhile (isDigitIn 16)
        (16, ds, 2 + ds.length)
      else if base == 0 then
        let ds := rest.takeWhile (isDigitIn 8)
        (8, ds, ds.length)
      else
        let ds := rest.takeWhile (isDigitIn 16)
        (16, ds, ds.length)
    | _ =>
      let b := if base == 0 then 10 else 16
      let ds := rest.takeWhile (isDigitIn b)
      (b, ds, ds.length)
  else
    let ds := rest.takeWhile (isDigitIn base)
    (base, ds, ds.length)

/-- The largest signed 64-bit value. -/
def int64Max : Nat := 9223372036854775807

/-- The size of the unsigned 64-bit range. -/
def word64 : Nat := 18446744073709551616

/-- **Reading a signed 64-bit integer** in a base (0 for the C prefixes). -/
def readSigned (base : Nat) (s : Bytes) : Reading Int :=
  let (pre, negative) := signPrefix s
  let (b, ds, n) := integerDigits base (s.drop pre)
  if ds.isEmpty then { value := 0, used := 0 }
  else
    let mag := digitsValue b ds
    let used := pre + n
    if negative then
      if mag > int64Max + 1 then { value := -((int64Max : Int) + 1), used, outOfRange := true }
      else { value := -(mag : Int), used }
    else if mag > int64Max then { value := int64Max, used, outOfRange := true }
    else { value := mag, used }

/-- **Reading an unsigned 64-bit integer** in a base: a minus sign negates modulo `2^64`. -/
def readUnsigned (base : Nat) (s : Bytes) : Reading Nat :=
  let (pre, negative) := signPrefix s
  let (b, ds, n) := integerDigits base (s.drop pre)
  if ds.isEmpty then { value := 0, used := 0 }
  else
    let mag := digitsValue b ds
    let used := pre + n
    if mag ≥ word64 then { value := word64 - 1, used, outOfRange := true }
    else if negative then { value := (word64 - mag) % word64, used }
    else { value := mag, used }

/-! ## Reals -/

/-- A binary floating-point number: `(-1)^negative · significand · 2^exponent`, an infinity,
or not a number. -/
inductive BinaryFloat where
  | finite (negative : Bool) (significand : Nat) (exponent : Int)
  | infinite (negative : Bool)
  | nan (negative : Bool)
  deriving DecidableEq, Repr

/-- A binary format: significand bits, and the exponent range as the least exponent of the
last significand bit (of the subnormal numbers) and the bound every value stays below, a power
of two. -/
structure BinaryFormat where
  bits : Nat
  leastExponent : Int
  limitExponent : Int
  deriving DecidableEq, Repr

/-- Double precision. -/
def double : BinaryFormat := ⟨53, -1074, 1024⟩

/-- The extended precision of the x87 unit. -/
def extended : BinaryFormat := ⟨64, -16445, 16384⟩

/-- `n / d` rounded to the nearest natural, a tie going to the even one, and whether it was
exact. -/
def divRoundEven (n d : Nat) : Nat × Bool :=
  let q := n / d
  let r := n % d
  ((if 2 * r > d || (2 * r == d && q % 2 == 1) then q + 1 else q), r == 0)

/-- `n · 2^e` as a fraction of naturals. -/
def shiftFraction (n d : Nat) (e : Int) : Nat × Nat :=
  if e ≥ 0 then (n * Nat.pow 2 e.toNat, d) else (n, d * Nat.pow 2 (-e).toNat)

/-- **Rounding a positive fraction** `n / d` to the format: the significand and exponent, whether
it overflowed, and whether it came out below the normal range inexactly. -/
def roundToFormat (f : BinaryFormat) (negative : Bool) (n d : Nat) : BinaryFloat × Bool :=
  if n = 0 then (.finite negative 0 0, false)
  else
    -- the exponent of the last significand bit when `n / d` has `bits` bits before it
    let e0 : Int := (Nat.log2 n : Int) - (Nat.log2 d : Int) - (f.bits : Int) + 1
    let (a, b) := shiftFraction n d (-e0)
    let e1 := if a < b * Nat.pow 2 (f.bits - 1) then e0 - 1 else e0
    let e := max e1 f.leastExponent
    let (a, b) := shiftFraction n d (-e)
    let (m, exact) := divRoundEven a b
    let (m, e) := if m = Nat.pow 2 f.bits then (Nat.pow 2 (f.bits - 1), e + 1) else (m, e)
    let tiny := m < Nat.pow 2 (f.bits - 1)
    if e + (f.bits : Int) > f.limitExponent then (.infinite negative, true)
    else (.finite negative m e, tiny && !exact)

/-- Letters of a word at the front, in either case. -/
def startsWithWord (s : Bytes) (w : String) : Bool :=
  let ws := w.toList.map fun c => c.toNat.toUInt8
  s.length ≥ ws.length &&
    ((s.take ws.length).zip ws).all fun (c, l) => c == l || c == l - 0x20

/-- The length of the optional `(…)` after `nan`: letters, digits and underscores. -/
def nanTail (s : Bytes) : Nat :=
  match s with
  | 0x28 :: rest =>
    let body := rest.takeWhile fun c =>
      (0x30 ≤ c && c ≤ 0x39) || (0x41 ≤ c && c ≤ 0x5A) || (0x61 ≤ c && c ≤ 0x7A) || c == 0x5F
    match rest.drop body.length with
    | 0x29 :: _ => body.length + 2
    | _ => 0
  | _ => 0

/-- An exponent after its letter: its value and length, when digits follow an optional sign. -/
def exponentPart (s : Bytes) : Option (Int × Nat) :=
  let (neg, rest, signLen) := match s with
    | 0x2D :: r => (true, r, 1)
    | 0x2B :: r => (false, r, 1)
    | r => (false, r, 0)
  let ds := rest.takeWhile (isDigitIn 10)
  if ds.isEmpty then none
  else
    -- an exponent this large already decides the result
    let v := min (digitsValue 10 ds) 100000
    some ((if neg then -(v : Int) else v), signLen + ds.length)

/-- Digits with an optional point among them: the digits, how many follow the point, and the
length taken. -/
def significandDigits (base : Nat) (s : Bytes) : Bytes × Nat × Nat :=
  let whole := s.takeWhile (isDigitIn base)
  match s.drop whole.length with
  | 0x2E :: rest =>
    let frac := rest.takeWhile (isDigitIn base)
    if whole.isEmpty && frac.isEmpty then ([], 0, 0)
    else (whole ++ frac, frac.length, whole.length + 1 + frac.length)
  | _ => (whole, 0, whole.length)

/-- **Reading a real** in a binary format. -/
def readReal (f : BinaryFormat) (s : Bytes) : Reading BinaryFloat :=
  let (pre, negative) := signPrefix s
  let rest := s.drop pre
  let none : Reading BinaryFloat := { value := .finite false 0 0, used := 0 }
  if startsWithWord rest "infinity" then { value := .infinite negative, used := pre + 8 }
  else if startsWithWord rest "inf" then { value := .infinite negative, used := pre + 3 }
  else if startsWithWord rest "nan" then
    { value := .nan negative, used := pre + 3 + nanTail (rest.drop 3) }
  else
    let hex := match rest with
      | 0x30 :: x :: more =>
        if x == 0x78 || x == 0x58 then
          let (ds, _, _) := significandDigits 16 more
          if ds.isEmpty then Option.none else some more
        else Option.none
      | _ => Option.none
    match hex with
    | some body =>
      let (ds, fracLen, n) := significandDigits 16 body
      let (e, eLen) := match body.drop n with
        | c :: more => if c == 0x70 || c == 0x50 then (exponentPart more).getD (0, 0) else (0, 0)
        | [] => (0, 0)
      let used := pre + 2 + n + (if eLen > 0 then eLen + 1 else 0)
      let mant := digitsValue 16 ds
      let exp := e - 4 * (fracLen : Int)
      if mant = 0 then { value := .finite negative 0 0, used }
      else if exp > 20000 then { value := .infinite negative, used, outOfRange := true }
      else if exp < -20000 - 4 * (ds.length : Int) then
        { value := .finite negative 0 0, used, outOfRange := true }
      else
        let (n, d) := shiftFraction mant 1 exp
        let (v, flagged) := roundToFormat f negative n d
        { value := v, used, outOfRange := flagged }
    | Option.none =>
      let (ds, fracLen, n) := significandDigits 10 rest
      if n = 0 then none
      else
        let (e, eLen) := match rest.drop n with
          | c :: more => if c == 0x65 || c == 0x45 then (exponentPart more).getD (0, 0) else (0, 0)
          | [] => (0, 0)
        let used := pre + n + (if eLen > 0 then eLen + 1 else 0)
        let mant := digitsValue 10 ds
        let exp := e - (fracLen : Int)
        let top := (ds.length : Int) + exp
        if mant = 0 then { value := .finite negative 0 0, used }
        else if top > 5000 then { value := .infinite negative, used, outOfRange := true }
        else if top < -5000 then { value := .finite negative 0 0, used, outOfRange := true }
        else
          let (n, d) := if exp ≥ 0 then (mant * Nat.pow 10 exp.toNat, 1)
            else (mant, Nat.pow 10 (-exp).toNat)
          let (v, flagged) := roundToFormat f negative n d
          { value := v, used, outOfRange := flagged }

end Inventory.Number

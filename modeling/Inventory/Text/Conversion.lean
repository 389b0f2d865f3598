import Inventory.Number.Reading
/-!
# Conversion specifications

A conversion specification of the C formatting functions writes one value: `%`, flags among
`-+ #0`, a minimum field width, a precision after `.`, and a conversion letter. This module
renders values under a specification, with the rules of the GNU C library:

* integers (`d i` signed; `u o x X` unsigned): the precision is the least number of digits,
  and a zero value with precision zero has none; `+` and space give a sign to non-negative
  signed values; `#` makes octal start with `0` and prefixes nonzero hexadecimal with `0x`;
  `0` pads with zeros after the sign and prefix, unless a precision is given;
* characters and strings (`c s`): the precision cuts a string to that many bytes;
* reals (`f F e E g G a A`): rounded exactly from their binary value, a tie going to the even
  digit. `f` writes a fixed number of fraction digits (six by default); `e` one digit, the
  fraction and an exponent of at least two digits; `g` the shorter of the two by the exponent,
  without trailing zeros unless `#`; `a` a hexadecimal significand and a binary exponent, as
  short as the value allows when no precision is given. Infinities and NaNs are `inf` and
  `nan` (capitalized for capital letters) and are never zero-padded;
* the field is padded with spaces to the width, on the left or, with `-`, on the right.
-/

set_option autoImplicit false

namespace Inventory.Conversion

open Number

/-- The flags, width and precision of a specification. -/
structure Spec where
  left : Bool := false
  plus : Bool := false
  space : Bool := false
  alt : Bool := false
  zero : Bool := false
  width : Nat := 0
  precision : Option Nat := none
  deriving DecidableEq, Repr

/-- Bytes of ASCII text. -/
def ascii (s : String) : Bytes := s.toList.map fun c => c.toNat.toUInt8

/-- `n` copies of a byte. -/
def fill (n : Nat) (c : UInt8) : Bytes := List.replicate n c

/-- **Padding** a field to the width: spaces before it, or after it with `-`. -/
def Spec.pad (sp : Spec) (body : Bytes) : Bytes :=
  let gap := sp.width - body.length
  if sp.left then body ++ fill gap 0x20 else fill gap 0x20 ++ body

/-- Padding a field whose sign and prefix stand before zeros: with `0` (and no `-`) the zeros
go between the prefix and the digits. -/
def Spec.padNumber (sp : Spec) (zeroPad : Bool) (pre digits : Bytes) : Bytes :=
  if zeroPad && sp.zero && !sp.left then
    pre ++ fill (sp.width - pre.length - digits.length) 0x30 ++ digits
  else sp.pad (pre ++ digits)

/-- The digits of a natural in a base, most significant first. -/
def digitsOf (base : Nat) (upper : Bool) (n : Nat) : Bytes :=
  (Nat.toDigits base n).map fun ch => (if upper then ch.toUpper else ch).toNat.toUInt8

/-- The digits under a precision: padded with zeros to it, none for zero at precision zero. -/
def withPrecision (sp : Spec) (digits : Bytes) (isZero : Bool) : Bytes :=
  match sp.precision with
  | some 0 => if isZero then [] else digits
  | some p => fill (p - digits.length) 0x30 ++ digits
  | none => digits

/-- **A signed integer** (`d`, `i`). -/
def signed (sp : Spec) (v : Int) : Bytes :=
  let digits := withPrecision sp (digitsOf 10 false v.natAbs) (v == 0)
  let sign := if v < 0 then ascii "-" else if sp.plus then ascii "+" else if sp.space then ascii " " else []
  sp.padNumber sp.precision.isNone sign digits

/-- **An unsigned integer** in the base a letter names (`u o x X`). -/
def unsigned (sp : Spec) (letter : Char) (v : Nat) : Bytes :=
  let (base, upper) : Nat × Bool := match letter with
    | 'o' => (8, false)
    | 'x' => (16, false)
    | 'X' => (16, true)
    | _ => (10, false)
  let digits := withPrecision sp (digitsOf base upper v) (v == 0)
  let digits := if sp.alt && base == 8 && digits.head? != some 0x30 then 0x30 :: digits else digits
  let pre := if sp.alt && base == 16 && v != 0 then ascii (if upper then "0X" else "0x") else []
  sp.padNumber sp.precision.isNone pre digits

/-- **A string** (`s`): cut to the precision. -/
def string (sp : Spec) (s : Bytes) : Bytes :=
  let s := match sp.precision with
    | some p => s.take p
    | none => s
  sp.padNumber true [] s

/-- **A character** (`c`). -/
def char (sp : Spec) (c : UInt8) : Bytes := sp.padNumber true [] [c]

/-! ## Reals -/

/-- The value of a finite binary number as a fraction of naturals. -/
def fractionOf (m : Nat) (e : Int) : Nat × Nat :=
  if e ≥ 0 then (m * Nat.pow 2 e.toNat, 1) else (m, Nat.pow 2 (-e).toNat)

/-- `⌊log10 (n / d)⌋` for a positive fraction. -/
def decimalExponent (n d : Nat) : Int :=
  let guess : Int := ((Nat.toDigits 10 n).length : Int) - ((Nat.toDigits 10 d).length : Int)
  -- `10^(guess - 1) ≤ n / d < 10^(guess + 1)`, so one comparison settles it
  let atLeast (k : Int) : Bool :=
    if k ≥ 0 then n ≥ d * Nat.pow 10 k.toNat else n * Nat.pow 10 (-k).toNat ≥ d
  if atLeast guess then guess else guess - 1

/-- `n / d · 10^k` rounded to a natural, a tie going to the even one. -/
def scaledRound (n d : Nat) (k : Int) : Nat :=
  if k ≥ 0 then (divRoundEven (n * Nat.pow 10 k.toNat) d).1
  else (divRoundEven n (d * Nat.pow 10 (-k).toNat)).1

/-- Digits of a natural, at least `width` of them. -/
def paddedDigits (width n : Nat) : Bytes :=
  let ds := digitsOf 10 false n
  fill (width - ds.length) 0x30 ++ ds

/-- **Fixed notation**: the digits of `n / d` with `p` fraction digits, and a point when there
are any or `#` asks for it. -/
def fixed (alt : Bool) (n d p : Nat) : Bytes :=
  let v := scaledRound n d p
  let ds := paddedDigits (p + 1) v
  let intPart := ds.take (ds.length - p)
  let frac := ds.drop (ds.length - p)
  intPart ++ (if p > 0 || alt then [0x2E] else []) ++ frac

/-- **Exponent notation**: one digit, a point and `p` digits, the letter and a signed exponent
of at least two digits; the digits and the exponent. -/
def exponentDigits (n d p : Nat) : Bytes × Int :=
  if n = 0 then (fill (p + 1) 0x30, 0)
  else
    let x := decimalExponent n d
    let v := scaledRound n d ((p : Int) - x)
    if v ≥ Nat.pow 10 (p + 1) then (paddedDigits (p + 1) (v / 10), x + 1)
    else (paddedDigits (p + 1) v, x)

/-- The exponent suffix: the letter, a sign and at least two digits. -/
def exponentText (letter : Char) (x : Int) : Bytes :=
  [letter.toNat.toUInt8, if x < 0 then 0x2D else 0x2B] ++ paddedDigits 2 x.natAbs

/-- Exponent notation of a fraction. -/
def scientific (alt : Bool) (letter : Char) (n d p : Nat) : Bytes :=
  let (ds, x) := exponentDigits n d p
  ds.take 1 ++ (if p > 0 || alt then [0x2E] else []) ++ ds.drop 1 ++ exponentText letter x

/-- Drop trailing zeros of a fraction, and the point when nothing follows it. -/
def trimFraction (s : Bytes) : Bytes :=
  if !s.contains 0x2E then s
  else
    let r := s.reverse.dropWhile (· == 0x30)
    (match r with
      | 0x2E :: rest => rest
      | _ => r).reverse

/-- **General notation** (`g`): `p` significant digits, fixed when the exponent lies in
`[-4, p)` and exponent notation otherwise. -/
def general (alt : Bool) (letter : Char) (n d p : Nat) : Bytes :=
  let p := if p = 0 then 1 else p
  let (_, x) := exponentDigits n d (p - 1)
  if x < (p : Int) && x ≥ -4 then
    let body := fixed alt n d ((p : Int) - 1 - x).toNat
    if alt then body else trimFraction body
  else
    let (ds, x) := exponentDigits n d (p - 1)
    let mant := ds.take 1 ++ (if p > 1 || alt then [0x2E] else []) ++ ds.drop 1
    (if alt then mant else trimFraction mant) ++ exponentText (if letter == 'G' then 'E' else 'e') x

/-- Hexadecimal digits of a fraction of a significand below `2^bits`, rounded to `p` digits when
given, and otherwise as many as the value needs. -/
def hexFraction (frac bits : Nat) (p : Option Nat) (upper : Bool) : Bytes × Bool :=
  -- `frac / 2^bits`, with `bits` a multiple of four
  let total := bits / 4
  match p with
  | none =>
    let ds := digitsOf 16 upper frac
    let ds := fill (total - ds.length) 0x30 ++ ds
    let ds := (ds.reverse.dropWhile (· == 0x30)).reverse
    (if frac = 0 then [] else ds, false)
  | some q =>
    if q ≥ total then
      let ds := digitsOf 16 upper frac
      (fill (total - ds.length) 0x30 ++ ds ++ fill (q - total) 0x30, false)
    else
      let (v, _) := divRoundEven frac (Nat.pow 16 (total - q))
      if v ≥ Nat.pow 16 q then (fill q 0x30, true)
      else
        let ds := digitsOf 16 upper v
        (fill (q - ds.length) 0x30 ++ ds, false)

/-- **Hexadecimal notation** (`a`) of a significand and exponent with `bits` significand bits:
a normalized number is written `1.hhh` times a power of two (the extended format writes its
leading four bits instead). -/
def hexadecimal (sp : Spec) (upper : Bool) (bits : Nat) (m : Nat) (e : Int) : Bytes × Bytes :=
  let pre := ascii (if upper then "0X" else "0x")
  let letter : UInt8 := if upper then 0x50 else 0x70
  if m = 0 then
    let frac := match sp.precision with
      | some q => fill q 0x30
      | none => []
    let point := if !frac.isEmpty || sp.alt then [0x2E] else []
    (pre, [0x30] ++ point ++ frac ++ [letter, 0x2B, 0x30])
  else
    -- lead digit width: one bit for doubles, four for the extended format
    let leadBits := if bits == 64 then 4 else 1
    let fracBits := bits - leadBits
    let shift := Nat.log2 m + 1
    -- normalize so the significand has exactly `bits` bits
    let (m, e) : Nat × Int := if shift < bits then (m * Nat.pow 2 (bits - shift), e - (bits - shift : Nat))
      else (m, e)
    let lead := m / Nat.pow 2 fracBits
    let frac := m % Nat.pow 2 fracBits
    let fracBits4 := (fracBits + 3) / 4 * 4
    let frac := frac * Nat.pow 2 (fracBits4 - fracBits)
    let (fracDigits, carry) := hexFraction frac fracBits4 sp.precision upper
    let lead := if carry then lead + 1 else lead
    -- the extended format's lead digit may carry into a fifth bit
    let (lead, e) := if leadBits == 4 && lead ≥ 16 then (lead / 2, e + 1) else if leadBits == 1 && lead ≥ 2 then (1, e + 1) else (lead, e)
    let exp : Int := e + (fracBits : Int)
    let point := if !fracDigits.isEmpty || sp.alt then [0x2E] else []
    (pre, digitsOf 16 upper lead ++ point ++ fracDigits ++
      [letter, if exp < 0 then 0x2D else 0x2B] ++ digitsOf 10 false exp.natAbs)

/-- **A real** under a conversion letter, for a format of `bits` significand bits. -/
def real (sp : Spec) (letter : Char) (bits : Nat) (x : BinaryFloat) : Bytes :=
  let upper := letter == 'F' || letter == 'E' || letter == 'G' || letter == 'A'
  let signOf (negative : Bool) : Bytes :=
    if negative then ascii "-" else if sp.plus then ascii "+" else if sp.space then ascii " " else []
  match x with
  | .infinite negative => sp.pad (signOf negative ++ ascii (if upper then "INF" else "inf"))
  | .nan negative => sp.pad (signOf negative ++ ascii (if upper then "NAN" else "nan"))
  | .finite negative m e =>
    let sign := signOf negative
    let (n, d) := fractionOf m e
    let p := sp.precision.getD 6
    match letter with
    | 'f' | 'F' => sp.padNumber true sign (fixed sp.alt n d p)
    | 'e' | 'E' => sp.padNumber true sign (scientific sp.alt letter n d p)
    | 'g' | 'G' => sp.padNumber true sign (general sp.alt letter n d p)
    | _ =>
      let (pre, body) := hexadecimal sp upper bits m e
      sp.padNumber true (sign ++ pre) body

end Inventory.Conversion

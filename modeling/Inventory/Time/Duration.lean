import Inventory.Text.Quote
/-!
# Durations

A duration is a signed number of nanoseconds that fits in 64 bits. This module reads and
writes durations in the unit notation `1h30m`, `1.5s`, `250ms`, `-2us`:

* **Reading** (`Duration.parse`): an optional sign, then one or more groups of a decimal number
  (digits, optionally a point and more digits, at least one digit in all) and a unit among
  `ns`, `us`, `µs`, `μs`, `ms`, `s`, `m`, `h`. A lone `0` needs no unit. The integer part of a
  group must stay within `2^63` nanoseconds; the fractional part is scaled in double precision
  and truncated, and digits beyond what 63 bits hold are ignored. The groups are summed in
  64 bits, so two groups of `2^63` nanoseconds add up to zero; the sum may reach `2^63` only
  when negative.
* **Writing** (`Duration.text`): hours, minutes and seconds with a decimal fraction without
  trailing zeros (`25h1m1.001s`); below one second the largest of `ms`, `µs`, `ns` that keeps
  an integer part (`1.5ms`); zero is `0s`.
* **Rounding** (`Duration.round`) to a multiple of a positive step, halves away from zero,
  saturating at the ends of the range.
-/

set_option autoImplicit false

namespace Inventory

/-- A signed count of nanoseconds. -/
structure Duration where
  nanos : Int
  deriving DecidableEq, Repr, Inhabited

namespace Duration

/-- The least and greatest representable durations. -/
def minNanos : Int := -(Int.pow 2 63)

/-- The greatest representable duration. -/
def maxNanos : Int := Int.pow 2 63 - 1

/-- Nanoseconds in one second. -/
def second : Nat := 1000000000

/-! ## 1. Reading -/

/-- Why a duration text was refused. -/
inductive ParseError where
  | invalid (text : Bytes)
  | missingUnit (text : Bytes)
  | unknownUnit (unit text : Bytes)
  deriving DecidableEq, Repr

/-- The message of a refused duration. -/
def ParseError.message : ParseError → String
  | .invalid t => "time: invalid duration " ++ Text.quoteOctets t
  | .missingUnit t => "time: missing unit in duration " ++ Text.quoteOctets t
  | .unknownUnit u t => "time: unknown unit " ++ Text.quoteOctets u ++ " in duration " ++ Text.quoteOctets t

/-- Nanoseconds per unit, for the unit names accepted. -/
def unitNanos (u : Bytes) : Option Nat :=
  if u = [0x6E, 0x73] then some 1
  else if u = [0x75, 0x73] || u = [0xC2, 0xB5, 0x73] || u = [0xCE, 0xBC, 0x73] then some 1000
  else if u = [0x6D, 0x73] then some 1000000
  else if u = [0x73] then some second
  else if u = [0x6D] then some (60 * second)
  else if u = [0x68] then some (3600 * second)
  else none

/-- A decimal digit byte. -/
def isDigitByte (c : UInt8) : Bool := 0x30 ≤ c && c ≤ 0x39

/-- The leading digits as a number, refusing beyond `2^63`. -/
def leadingInt : Nat → Bytes → Option (Nat × Bytes)
  | x, [] => some (x, [])
  | x, c :: rest =>
    if isDigitByte c then
      if x > Nat.pow 2 63 / 10 then none
      else
        let y := x * 10 + (c.toNat - 48)
        if y > Nat.pow 2 63 then none else leadingInt y rest
    else some (x, c :: rest)

/-- The leading digits of a fraction: the value and the power of ten it is scaled by, with
digits past 63 bits skipped. -/
def leadingFraction : Nat → Nat → Bool → Bytes → Nat × Nat × Bytes
  | x, scale, _, [] => (x, scale, [])
  | x, scale, saturated, c :: rest =>
    if isDigitByte c then
      if saturated then leadingFraction x scale true rest
      else if x > (Nat.pow 2 63 - 1) / 10 then leadingFraction x scale true rest
      else
        let y := x * 10 + (c.toNat - 48)
        if y > Nat.pow 2 63 then leadingFraction x scale true rest
        else leadingFraction y (scale * 10) false rest
    else (x, scale, c :: rest)

/-- The fractional part of a group in nanoseconds: `f · (unit / scale)` in double precision,
truncated. -/
def fractionNanos (f unit scale : Nat) : Nat :=
  (Float.ofNat f * (Float.ofNat unit / Float.ofNat scale)).toUInt64.toNat

/-- A byte that may start a number: a digit or a point. -/
def startsNumber (c : UInt8) : Bool := c == 0x2E || isDigitByte c

/-- Read groups until the text ends; `d` is the sum so far, in 64 bits. -/
def groups (orig : Bytes) (d : Nat) : Bytes → Except ParseError Nat
  | [] => .ok d
  | c :: rest =>
    if !startsNumber c then .error (.invalid orig)
    else
      match leadingInt 0 (c :: rest) with
      | none => .error (.invalid orig)
      | some (v, s1) =>
        let pre := s1.length != (c :: rest).length
        let (f, scale, s2, post) := match s1 with
          | 0x2E :: more =>
            let (f, scale, s2) := leadingFraction 0 1 false more
            (f, scale, s2, s2.length != more.length)
          | _ => (0, 1, s1, false)
        if !pre && !post then .error (.invalid orig)
        else
          let u := s2.takeWhile (!startsNumber ·)
          let s3 := s2.dropWhile (!startsNumber ·)
          if u.isEmpty then .error (.missingUnit orig)
          else
            match unitNanos u with
            | none => .error (.unknownUnit u orig)
            | some unit =>
              if v > Nat.pow 2 63 / unit then .error (.invalid orig)
              else
                let v := v * unit
                let v := if f > 0 then v + fractionNanos f unit scale else v
                if v > Nat.pow 2 63 then .error (.invalid orig)
                else
                  -- the sum is kept in 64 bits: two groups of 2^63 add up to 0
                  let d := (d + v) % Nat.pow 2 64
                  if d > Nat.pow 2 63 then .error (.invalid orig)
                  else if _h : s3.length < (c :: rest).length then groups orig d s3
                  else .error (.invalid orig)
termination_by bs => bs.length
decreasing_by exact _h

/-- **Reading a duration.** -/
def parse (text : Bytes) : Except ParseError Duration :=
  let (neg, s) := match text with
    | 0x2D :: r => (true, r)
    | 0x2B :: r => (false, r)
    | r => (false, r)
  if s = [0x30] then .ok ⟨0⟩
  else if s.isEmpty then .error (.invalid text)
  else
    match groups text 0 s with
    | .error e => .error e
    | .ok d =>
      if neg then .ok ⟨-(d : Int)⟩
      else if d > Nat.pow 2 63 - 1 then .error (.invalid text)
      else .ok ⟨d⟩

/-! ## 2. Writing -/

/-- The fraction `v mod 10^prec` as `.ddd` without trailing zeros (nothing when zero), and
`v / 10^prec`. -/
def fraction (v prec : Nat) : String × Nat :=
  let digits := (List.range prec).map fun i => v / Nat.pow 10 i % 10
  let kept := digits.dropWhile (· == 0)
  let text := if kept.isEmpty then "" else "." ++ String.ofList (kept.reverse.map fun d => Char.ofNat (48 + d))
  (text, v / Nat.pow 10 prec)

/-- **The text of a duration.** -/
def text (d : Duration) : String :=
  let u := d.nanos.natAbs
  let sign := if d.nanos < 0 then "-" else ""
  if u = 0 then "0s"
  else if u < second then
    let (prec, unit) :=
      if u < 1000 then (0, "ns") else if u < 1000000 then (3, "µs") else (6, "ms")
    let (frac, whole) := fraction u prec
    sign ++ toString whole ++ frac ++ unit
  else
    let (frac, secs) := fraction u 9
    let s := toString (secs % 60) ++ frac ++ "s"
    let mins := secs / 60
    if mins = 0 then sign ++ s
    else
      let m := toString (mins % 60) ++ "m" ++ s
      let hours := mins / 60
      if hours = 0 then sign ++ m else sign ++ toString hours ++ "h" ++ m

/-! ## 3. Rounding -/

/-- **Rounding** to a multiple of `m`: halves away from zero, saturating at the range ends. -/
def round (d : Duration) (m : Nat) : Duration :=
  if m = 0 then d
  else
    let r := d.nanos.natAbs % m
    if d.nanos < 0 then
      if r + r < m then ⟨d.nanos + r⟩
      else
        let d1 := d.nanos - m + r
        if d1 < minNanos then ⟨minNanos⟩ else ⟨d1⟩
    else
      if r + r < m then ⟨d.nanos - r⟩
      else
        let d1 := d.nanos + m - r
        if d1 > maxNanos then ⟨maxNanos⟩ else ⟨d1⟩

end Duration

end Inventory

/-!
# Calendar dates

The proleptic Gregorian calendar in UTC: a count of seconds since 1970-01-01T00:00:00Z becomes
a year, month, day, hour, minute and second, for every integer count, before year 1 and after
year 9999 included. The day is found by counting whole 400-year eras of 146097 days from
0000-03-01, so that the leap day ends each counted year.

`Stamp.text` writes the RFC 3339 form `YYYY-MM-DDTHH:MM:SSZ`; the year has at least four
digits, a negative year a leading minus sign.
-/

set_option autoImplicit false

namespace Inventory

/-- A moment in UTC, to the second. -/
structure Stamp where
  year : Int
  month : Nat
  day : Nat
  hour : Nat
  minute : Nat
  second : Nat
  deriving DecidableEq, Repr

namespace Stamp

/-- Seconds in a day. -/
def secondsPerDay : Nat := 86400

/-- **The civil date** of a day counted from 1970-01-01: year, month and day. -/
def civil (days : Int) : Int × Nat × Nat :=
  let z := days + 719468
  let era := z / 146097
  let doe := (z - era * 146097).toNat
  let yoe := (doe - doe / 1460 + doe / 36524 - doe / 146096) / 365
  let doy := doe - (365 * yoe + yoe / 4 - yoe / 100)
  let mp := (5 * doy + 2) / 153
  let day := doy - (153 * mp + 2) / 5 + 1
  let month := if mp < 10 then mp + 3 else mp - 9
  let year := (yoe : Int) + era * 400
  (if month ≤ 2 then year + 1 else year, month, day)

/-- **The moment** a count of seconds since 1970-01-01T00:00:00Z names. -/
def ofUnix (secs : Int) : Stamp :=
  let days := secs / (secondsPerDay : Int)
  let rest := (secs - days * secondsPerDay).toNat
  let (year, month, day) := civil days
  { year, month, day, hour := rest / 3600, minute := rest / 60 % 60, second := rest % 60 }

/-- A natural with at least `width` digits, zeros in front. -/
def padded (width n : Nat) : String :=
  let ds := Nat.toDigits 10 n
  String.ofList (List.replicate (width - ds.length) '0' ++ ds)

/-- **The RFC 3339 text** of a moment. -/
def text (t : Stamp) : String :=
  let year := (if t.year < 0 then "-" else "") ++ padded 4 t.year.natAbs
  year ++ "-" ++ padded 2 t.month ++ "-" ++ padded 2 t.day ++ "T" ++ padded 2 t.hour ++ ":" ++
    padded 2 t.minute ++ ":" ++ padded 2 t.second ++ "Z"

end Stamp

end Inventory

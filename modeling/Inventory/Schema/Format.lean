import Inventory.Regex.Match
import Inventory.Net.Url
import Inventory.Mail.Address
/-!
# String formats

The `format` keyword names a kind of string. A format not listed here accepts everything, as
does every value that is not a string.

* `date`, `time` and `date-time` read calendar dates `YYYY-MM-DD` and clock times
  `hh:mm:ss` with an optional fraction and, for `time`, an optional zone `Z` or `±hh:mm`;
  `date-time` accepts either of those or the two joined by `T`. Months run 1 to 12, days to
  the length of the month, hours to 23, minutes and seconds to 59; the hour may have one digit.
* `ipv4` and `ipv6` read an IP address without a zone, and need a dot or a colon in the text
  respectively; an IPv6 address with an IPv4 tail is both.
* `email` and `idn-email` read a single mail address, possibly with a display name.
* `hostname`, `uuid`, `json-pointer` and `relative-json-pointer` are fixed patterns.
* `uri`, `iri`, `uri-reference`, `iri-reference` and `uri-template` read URLs without a
  backslash, the first two with a scheme.
* `regex` reads a regular expression.
-/

set_option autoImplicit false

namespace Inventory.Schema

/-! ## Dates and times -/

/-- A two-digit number at the front, or with `loose` a one-digit one. -/
def twoDigits (loose : Bool) : List Char → Option (Nat × List Char)
  | a :: b :: rest =>
    if a.isDigit && b.isDigit then some ((a.toNat - 48) * 10 + (b.toNat - 48), rest)
    else if a.isDigit && loose then some (a.toNat - 48, b :: rest)
    else none
  | [a] => if a.isDigit && loose then some (a.toNat - 48, []) else none
  | [] => none

/-- A literal character at the front. -/
def literal (c : Char) : List Char → Option (List Char)
  | d :: rest => if c == d then some rest else none
  | [] => none

/-- The days of a month of a year. -/
def daysIn (month : Nat) (year : Nat) : Nat :=
  if month == 2 then
    if year % 4 == 0 && (year % 100 != 0 || year % 400 == 0) then 29 else 28
  else if month == 4 || month == 6 || month == 9 || month == 11 then 30
  else 31

/-- A calendar date at the front: four year digits, two month digits, two day digits. -/
def readDate (s : List Char) : Option (List Char) := do
  let ys := s.take 4
  if ys.length != 4 || !ys.all Char.isDigit then none
  let year := ys.foldl (fun n c => n * 10 + (c.toNat - 48)) 0
  let s ← literal '-' (s.drop 4)
  let (month, s) ← twoDigits false s
  if month < 1 || month > 12 then none
  let s ← literal '-' s
  let (day, s) ← twoDigits false s
  if day < 1 || day > daysIn month year then none
  pure s

/-- A fraction of a second at the front, if one is there. -/
def skipFraction (s : List Char) : List Char :=
  match s with
  | c :: d :: rest => if (c == '.' || c == ',') && d.isDigit then rest.dropWhile Char.isDigit else s
  | _ => s

/-- A clock time at the front: the hour with one or two digits, then minutes, seconds and an
optional fraction. -/
def readClock (s : List Char) : Option (List Char) := do
  let (hour, s) ← twoDigits true s
  if hour > 23 then none
  let s ← literal ':' s
  let (minute, s) ← twoDigits false s
  if minute > 59 then none
  let s ← literal ':' s
  let (second, s) ← twoDigits false s
  if second > 59 then none
  pure (skipFraction s)

/-- A zone at the front: `Z`, or a sign with two hour and two minute digits. -/
def readZone : List Char → Option (List Char)
  | 'Z' :: rest => some rest
  | sign :: a :: b :: ':' :: c :: d :: rest =>
    if (sign == '+' || sign == '-') && [a, b, c, d].all Char.isDigit then
      let hour := (a.toNat - 48) * 10 + (b.toNat - 48)
      let minute := (c.toNat - 48) * 10 + (d.toNat - 48)
      if hour > 24 || minute > 60 then none else some rest
    else none
  | _ => none

/-- The whole text reads by `f`. -/
def whole (f : List Char → Option (List Char)) (s : String) : Bool :=
  f s.toList == some []

/-- **A date.** -/
def isDate (s : String) : Bool := whole readDate s

/-- **A time**, with or without a zone. -/
def isTime (s : String) : Bool :=
  whole (fun t => readClock t >>= readZone) s || whole readClock s

/-- **A date and time**, or a date, or a time. -/
def isDateTime (s : String) : Bool :=
  isTime s || isDate s ||
    whole (fun t => readDate t >>= literal 'T' >>= readClock >>= readZone) s

/-! ## Patterns and URLs -/

/-- The text matches a pattern given by its source, which reads. -/
def matchesPattern (pattern text : String) : Bool :=
  match Regex.parse pattern with
  | .ok n => n.found text
  | .error _ => false

/-- The pattern of host names. -/
def hostnamePattern : String :=
  "^([a-zA-Z0-9]|[a-zA-Z0-9][a-zA-Z0-9\\-]\x7b0,61\x7d[a-zA-Z0-9])(\\.([a-zA-Z0-9]|[a-zA-Z0-9][a-zA-Z0-9\\-]\x7b0,61\x7d[a-zA-Z0-9]))*$"

/-- The pattern of UUIDs. -/
def uuidPattern : String :=
  "^[a-f0-9]\x7b8\x7d-[a-f0-9]\x7b4\x7d-[a-f0-9]\x7b4\x7d-[a-f0-9]\x7b4\x7d-[a-f0-9]\x7b12\x7d$"

/-- The pattern of JSON pointers. -/
def pointerPattern : String := "^(?:/(?:[^~/]|~0|~1)*)*$"

/-- The pattern of relative JSON pointers. -/
def relativePointerPattern : String := "^(?:0|[1-9][0-9]*)(?:#|(?:/(?:[^~/]|~0|~1)*)*)$"

/-- The pattern of URI template paths. -/
def templatePattern : String := "^([^\x7b]*(\x7b[^\x7d]*\x7d)?)*$"

/-- A URL that reads and holds no backslash. -/
def readUrl? (s : String) : Option Url :=
  if s.contains '\\' then none else (Url.parse s).toOption

/-! ## Formats -/

/-- The formats that are checked; every other format name accepts every value. -/
def knownFormats : List String :=
  ["date", "time", "date-time", "hostname", "email", "idn-email", "ipv4", "ipv6", "uri", "iri",
    "uri-reference", "iri-reference", "uri-template", "uuid", "regex", "json-pointer",
    "relative-json-pointer"]

/-- **Whether a number has a format**: a checked format holds only of strings, so no number
has one; an unknown format accepts it. -/
def numberConforms (format : String) : Bool := !knownFormats.contains format

/-- **Whether a string has a format**; unknown formats accept every string. -/
def conforms (format s : String) : Bool :=
  match format with
  | "date" => isDate s
  | "time" => isTime s
  | "date-time" => isDateTime s
  | "hostname" => matchesPattern hostnamePattern s && s.utf8ByteSize < 256
  | "email" | "idn-email" => Mail.isAddress s
  | "ipv4" => Net.isPlainIp s && s.contains '.'
  | "ipv6" => Net.isPlainIp s && s.contains ':'
  | "uri" | "iri" => (readUrl? s).any (fun u => !u.scheme.isEmpty)
  | "uri-reference" | "iri-reference" => (readUrl? s).isSome
  | "uri-template" => (readUrl? s).any (fun u => matchesPattern templatePattern (Utf8.decode u.path))
  | "uuid" => matchesPattern uuidPattern s
  | "regex" => (Regex.parse s).toOption.isSome
  | "json-pointer" => matchesPattern pointerPattern s
  | "relative-json-pointer" => matchesPattern relativePointerPattern s
  | _ => true

end Inventory.Schema

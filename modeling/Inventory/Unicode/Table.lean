/-!
# Tables of code points

The Unicode properties this library needs (general category, script, case-folding classes)
are stored as compact texts and read once into arrays.

A **run table** gives a property value to every code point: a sequence of runs, each the
first code point of a stretch and the index of the value that holds from there up to the
next run's start. Its text writes each run as the index in letters (`g`–`z` then `G`–`Z`, so
base 40, one or two letters as the table says) followed by the distance from the previous
run's start in hexadecimal digits.

Sets of code points are lists of closed ranges; `Ranges.normalize` sorts them and merges
ranges that overlap or touch, so membership is one binary search.
-/

set_option autoImplicit false

namespace Inventory.Unicode

/-- The greatest code point. -/
def maxCode : Nat := 0x10FFFF

/-- Closed ranges of code points. -/
abbrev Ranges := List (Nat × Nat)

/-! ## Run tables -/

/-- The digit a table letter stands for. -/
def letterDigit (c : Char) : Option Nat :=
  if 'g' ≤ c && c ≤ 'z' then some (c.toNat - 'g'.toNat)
  else if 'G' ≤ c && c ≤ 'Z' then some (c.toNat - 'G'.toNat + 20)
  else none

/-- The value of a hexadecimal digit; other characters count as zero. -/
def hexDigit (c : Char) : Nat :=
  if '0' ≤ c && c ≤ '9' then c.toNat - '0'.toNat
  else if 'a' ≤ c && c ≤ 'f' then c.toNat - 'a'.toNat + 10
  else 0

/-- The state of reading a run table: the runs so far, the start of the last one, and the
index and distance of the run being read. -/
structure RunReader where
  runs : Array (Nat × Nat) := #[]
  start : Nat := 0
  index : Nat := 0
  delta : Nat := 0
  inDelta : Bool := false

/-- Close the run being read, if its distance has begun. -/
def RunReader.close (r : RunReader) : RunReader :=
  if r.inDelta then
    { runs := r.runs.push (r.start + r.delta, r.index), start := r.start + r.delta }
  else r

/-- Read one character of a run table. -/
def RunReader.step (r : RunReader) (c : Char) : RunReader :=
  match letterDigit c with
  | some v => let r := r.close; { r with index := r.index * 40 + v }
  | none => { r with delta := r.delta * 16 + hexDigit c, inDelta := true }

/-- **Reading a run table**: the runs as (first code point, value index), in order. -/
def readRuns (text : String) : Array (Nat × Nat) := (text.foldl RunReader.step {}).close.runs

/-- The index of the last run that starts at or before a code point, searching `[lo, hi)`. -/
def lastRunAt (runs : Array (Nat × Nat)) (cp : Nat) : Nat → Nat → Nat → Nat
  | 0, lo, _ => lo
  | fuel + 1, lo, hi =>
    if hi ≤ lo + 1 then lo
    else
      let mid := (lo + hi) / 2
      if (runs.getD mid (0, 0)).1 ≤ cp then lastRunAt runs cp fuel mid hi
      else lastRunAt runs cp fuel lo mid

/-- **The value a run table gives a code point.** -/
def valueAt (runs : Array (Nat × Nat)) (cp : Nat) : Nat :=
  (runs.getD (lastRunAt runs cp 64 0 runs.size) (0, 0)).2

/-- The code points whose value satisfies a test, as ranges in increasing order. -/
def rangesWhere (runs : Array (Nat × Nat)) (p : Nat → Bool) : Ranges :=
  let ends := (runs.toList.drop 1).map (fun (s, _) => s - 1) ++ [maxCode]
  let spans := (runs.toList.zip ends).filterMap fun ((s, v), e) => if p v then some (s, e) else none
  spans.foldr (fun (s, e) acc =>
    match acc with
    | (s', e') :: rest => if e + 1 = s' then (s, e') :: rest else (s, e) :: acc
    | [] => [(s, e)]) []

/-! ## Ranges -/

namespace Ranges

/-- Merge sorted ranges that overlap or touch. -/
def mergeSorted : Ranges → Ranges
  | (a, b) :: (c, d) :: rest =>
    if c ≤ b + 1 then mergeSorted ((a, max b d) :: rest) else (a, b) :: mergeSorted ((c, d) :: rest)
  | rs => rs
termination_by rs => rs.length

/-- Sorted, disjoint, non-touching ranges covering the same code points. -/
def normalize (rs : Ranges) : Ranges :=
  mergeSorted ((rs.filter fun (lo, hi) => lo ≤ hi).mergeSort fun a b => a.1 ≤ b.1)

/-- The code points from `start` on that normalized ranges leave out. -/
def gapsFrom (start : Nat) : Ranges → Ranges
  | [] => if start ≤ maxCode then [(start, maxCode)] else []
  | (lo, hi) :: rest => (if start < lo then [(start, lo - 1)] else []) ++ gapsFrom (hi + 1) rest

/-- The complement within all code points. -/
def complement (rs : Ranges) : Ranges := gapsFrom 0 (normalize rs)

/-- Whether normalized ranges, as an array, hold a code point: one binary search. -/
def arrayHas (rs : Array (Nat × Nat)) (cp : Nat) : Bool :=
  if rs.isEmpty then false
  else
    let r := rs.getD (lastRunAt rs cp 64 0 rs.size) (0, 0)
    r.1 ≤ cp && cp ≤ r.2

/-- Whether ranges hold a code point. -/
def contains (rs : Ranges) (cp : Nat) : Bool := rs.any fun (lo, hi) => lo ≤ cp && cp ≤ hi

end Ranges

end Inventory.Unicode

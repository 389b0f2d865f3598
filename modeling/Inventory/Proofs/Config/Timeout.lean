import Inventory.Config.Check
import Mathlib.Data.Nat.Digits.Defs
/-!
# The probe time limit

A time limit is read in one of two ways. A decimal integer with an optional sign that fits in
64 bits (`DecimalInt`, leading zeros allowed) is a number of seconds; any other text is read as
a duration.

The number of seconds is turned into nanoseconds, and a signed 64-bit count of nanoseconds holds
`n` seconds exactly when `|n| ≤ 9223372036`, on the negative side as on the positive one
(`seconds_fit_iff`); multiplying in 64 bits gives the true product exactly then, and wraps
around otherwise (`toInt_mul_second_iff`). The limit refuses exactly the integers beyond that
bound, so an accepted integer never wraps and no integer that fits is refused
(`probeTimeout_of_decimalInt`). A text that is no such integer, digit strings too long for 64
bits among them, gets the duration reader's answer (`probeTimeout_of_not_decimalInt`).

Checking the settings reaches the schema step exactly when the time limit reads and is not
negative, once the endpoint and identifier rules have passed (`validate_timeout_step`).
-/

set_option autoImplicit false

namespace Inventory.Config

/-! ## 1. Decimal integers -/

/-- The number a string of decimal digits spells. -/
def decimalValue (ds : List Char) : Nat := Nat.ofDigits 10 (ds.reverse.map fun c => c.toNat - 48)

/-- **A decimal integer that fits in 64 bits**: an optional sign, then one or more decimal digits,
spelling `n`, with `-2^63 ≤ n < 2^63`. -/
def DecimalInt (s : String) (n : Int) : Prop :=
  ∃ sign digits : List Char, s.toList = sign ++ digits ∧ (sign = [] ∨ sign = ['+'] ∨ sign = ['-']) ∧
    digits ≠ [] ∧ (∀ c ∈ digits, c.isDigit) ∧
    n = (if sign = ['-'] then -(decimalValue digits : Int) else decimalValue digits) ∧
    -2 ^ 63 ≤ n ∧ n < 2 ^ 63

/-- Reading digits left to right, each one shifting what was read before. -/
theorem foldl_digits (ds : List Char) (a : Nat) :
    ds.foldl (fun acc d => acc * 10 + (d.toNat - 48)) a = a * 10 ^ ds.length + decimalValue ds := by
  induction ds generalizing a with
  | nil => simp [decimalValue]
  | cons d ds ih =>
    rw [List.foldl_cons, ih]
    simp only [decimalValue, List.reverse_cons, List.map_append, List.map_cons, List.map_nil,
      Nat.ofDigits_append, Nat.ofDigits_singleton, List.length_map, List.length_reverse,
      List.length_cons, Nat.pow_succ]
    ring

/-- Where a text may carry a sign, the sign it carries: a minus, a plus, or none, when the text
starts with neither. -/
def SignSplit (s : String) (neg : Bool) (ds : List Char) : Prop :=
  (s.toList = '-' :: ds ∧ neg = true) ∨ (s.toList = '+' :: ds ∧ neg = false) ∨
    (s.toList = ds ∧ neg = false ∧ ∀ r, ds ≠ '-' :: r ∧ ds ≠ '+' :: r)

/-- A decimal integer after its sign is split off: its digits, its value and its range. -/
theorem decimalInt_iff_of_split {s : String} {neg : Bool} {ds : List Char} (hs : SignSplit s neg ds)
    (n : Int) :
    DecimalInt s n ↔ ds ≠ [] ∧ (∀ c ∈ ds, c.isDigit) ∧
      n = (if neg then -(decimalValue ds : Int) else decimalValue ds) ∧ -2 ^ 63 ≤ n ∧ n < 2 ^ 63 := by
  constructor
  · rintro ⟨sign, digits, hsd, hsign, hne, hdig, hn, hrange⟩
    -- the digits start with a digit, so the sign split off is the one the text carries
    obtain ⟨d, r, rfl⟩ := List.exists_cons_of_ne_nil hne
    have hd := hdig d (by simp)
    have hd1 : '-' ≠ d := by rintro rfl; simp at hd
    have hd2 : '+' ≠ d := by rintro rfl; simp at hd
    rcases hs with ⟨hs, rfl⟩ | ⟨hs, rfl⟩ | ⟨hs, rfl, hno⟩ <;> rw [hs] at hsd <;>
      rcases hsign with rfl | rfl | rfl <;> simp_all
  · rintro ⟨hne, hdig, hn, hrange⟩
    rcases hs with ⟨hs, rfl⟩ | ⟨hs, rfl⟩ | ⟨hs, rfl, -⟩
    · exact ⟨['-'], ds, hs, .inr (.inr rfl), hne, hdig, by simpa using hn, hrange⟩
    · exact ⟨['+'], ds, hs, .inr (.inl rfl), hne, hdig, by simpa using hn, hrange⟩
    · exact ⟨[], ds, hs, .inl rfl, hne, hdig, by simpa using hn, hrange⟩

/-- **The integer reader reads exactly the decimal integers that fit in 64 bits.** -/
theorem readInt_eq_some_iff (s : String) (n : Int) : readInt s = some n ↔ DecimalInt s n := by
  unfold readInt
  split
  rename_i neg ds hsign
  have hs : SignSplit s neg ds := by
    unfold SignSplit
    split at hsign <;> cases hsign <;> simp_all
  rw [decimalInt_iff_of_split hs, foldl_digits, Nat.zero_mul, Nat.zero_add]
  by_cases hds : ds ≠ [] ∧ ∀ c ∈ ds, c.isDigit
  · have hcheck : (ds.isEmpty || !ds.all Char.isDigit) = false := by
      simp only [Bool.or_eq_false_iff, List.isEmpty_eq_false_iff, Bool.not_eq_false', List.all_eq_true]
      exact hds
    simp only [hcheck, Bool.false_eq_true, if_false, ne_eq, hds.1, not_false_eq_true, true_and,
      and_iff_right hds.2, Nat.pow_eq]
    -- what is left is the range check, on either side of zero
    cases neg <;> simp only [Bool.false_eq_true, ↓reduceIte] <;> split <;>
      simp only [Option.some.injEq, reduceCtorEq, false_iff] <;> omega
  · have hcheck : (ds.isEmpty || !ds.all Char.isDigit) = true := by
      simp only [Bool.or_eq_true, List.isEmpty_iff, Bool.not_eq_true', List.all_eq_false]
      by_contra h
      simp only [not_or, Bool.not_eq_true, not_exists, not_and, Bool.not_eq_false] at h
      exact hds ⟨h.1, h.2⟩
    simp only [hcheck, if_true, reduceCtorEq, false_iff]
    exact fun h => hds ⟨h.1, h.2.1⟩

/-! ## 2. Seconds in 64 bits of nanoseconds -/

/-- **The bound is tight**: `n` seconds fit in a signed 64-bit count of nanoseconds exactly when
`|n| ≤ 9223372036`. -/
theorem seconds_fit_iff (n : Int) :
    (-2 ^ 63 ≤ n * 1000000000 ∧ n * 1000000000 ≤ 2 ^ 63 - 1) ↔ n.natAbs ≤ 9223372036 := by
  omega

/-- **Multiplying in 64 bits gives the true number of nanoseconds exactly within the bound**, and
wraps around beyond it. -/
theorem toInt_mul_second_iff (n : Int) :
    (Int64.ofInt n * 1000000000).toInt = n * 1000000000 ↔ n.natAbs ≤ 9223372036 := by
  constructor
  · intro h
    have hlo := Int64.le_toInt (Int64.ofInt n * 1000000000)
    have hhi := Int64.toInt_lt (Int64.ofInt n * 1000000000)
    rw [h] at hlo hhi
    omega
  · intro h
    have hsize : Int64.size = 2 ^ 64 := rfl
    have hsecond : (1000000000 : Int64) = Int64.ofInt 1000000000 := rfl
    rw [hsecond, Int64.toInt_mul, Int64.toInt_ofInt, Int64.toInt_ofInt, hsize, Int.bmod_mul_bmod,
      Int.mul_bmod_bmod, Int.bmod_eq_of_le (by omega) (by omega)]

/-- The most whole seconds a limit may have. -/
theorem maxTimeoutSeconds_eq : maxTimeoutSeconds = 9223372036 := by decide

/-! ## 3. Reading the time limit -/

variable {c : Config}

/-- A decimal integer is a number of seconds, refused beyond the bound. -/
theorem probeTimeout_of_decimalInt {n : Int} (h : DecimalInt c.timeout n) :
    c.probeTimeout =
      if 9223372036 < n.natAbs then .error (.timeoutRange c.timeout) else .ok ⟨n * 1000000000⟩ := by
  have hne : c.timeout.isEmpty = false := by
    obtain ⟨sign, digits, hs, -, hd, -⟩ := h
    cases h : c.timeout.isEmpty
    · rfl
    · rw [String.isEmpty_iff.mp h] at hs
      exact absurd (List.append_eq_nil_iff.mp hs.symm).2 hd
  unfold probeTimeout
  rw [hne, (readInt_eq_some_iff _ n).mpr h, maxTimeoutSeconds_eq]
  rfl

/-- **Any other text is read as a duration**, its refusal reported as an invalid limit. -/
theorem probeTimeout_of_not_decimalInt (h0 : c.timeout ≠ "") (h : ∀ n, ¬DecimalInt c.timeout n) :
    c.probeTimeout = (Duration.parse (Utf8.ofString c.timeout)).mapError (.badTimeout c.timeout) := by
  have hne : c.timeout.isEmpty = false := by simpa [String.isEmpty_iff] using h0
  have hnone : readInt c.timeout = none := by
    cases hr : readInt c.timeout with
    | none => rfl
    | some n => exact absurd ((readInt_eq_some_iff _ n).mp hr) (h n)
  unfold probeTimeout
  rw [hne, hnone]
  cases Duration.parse (Utf8.ofString c.timeout) <;> rfl

/-- Reading the time limit fails only for the time limit's own reasons. -/
theorem probeTimeout_ne_schemaMissing (p : String) : c.probeTimeout ≠ .error (.schemaMissing p) := by
  unfold probeTimeout
  split
  · simp
  · split
    · split <;> simp
    · cases Duration.parse (Utf8.ofString c.timeout) <;> simp

/-! ## 4. Checking the time limit -/

/-- **The time limit step of checking**: once the endpoint and identifier rules pass, checking
fails only at the schema step exactly when the time limit reads and is not negative. -/
theorem validate_timeout_step (missing : String → Bool) (hurl : c.url = "" ∨ isUrl c.url = true)
    (hid : c.deviceId = "" ∨ isUuid c.deviceId = true) :
    (c.validate missing = .ok () ∨ c.validate missing = .error (.schemaMissing c.schema)) ↔
      ∃ t, c.probeTimeout = .ok t ∧ 0 ≤ t.nanos := by
  have hrules : c.validate missing = (do
      let t ← c.probeTimeout
      if t.nanos < 0 then throw .negativeTimeout
      if !c.schema.isEmpty && missing c.schema then throw (.schemaMissing c.schema)) := by
    unfold validate
    rcases hurl with hu | hu <;> rcases hid with hd | hd <;> simp [hu, hd]
  rw [hrules]
  cases ht : c.probeTimeout with
  | error e =>
    -- a time limit that does not read is never the schema's fault
    have he : e ≠ .schemaMissing c.schema := by
      rintro rfl
      exact probeTimeout_ne_schemaMissing c.schema ht
    simp [bind, Except.bind, he]
  | ok t =>
    by_cases hneg : t.nanos < 0
    · simp [bind, Except.bind, hneg, throw, throwThe, MonadExceptOf.throw]
    · have hschema : ∀ r : Except ConfigError Unit,
          r = (if (!c.schema.isEmpty && missing c.schema) = true then
            throw (ConfigError.schemaMissing c.schema) else pure ()) →
          (r = .ok () ∨ r = .error (.schemaMissing c.schema)) := by
        rintro r rfl
        split
        · exact .inr rfl
        · exact .inl rfl
      simp only [bind, Except.bind, hneg, if_false]
      exact ⟨fun _ => ⟨t, rfl, by omega⟩, fun _ => hschema _ rfl⟩

/-! ## 5. The law -/

/-- **Reading the time limit never overflows, and its bound is exact.** An empty limit is zero.
A decimal integer `n` that fits in 64 bits is `n` seconds exactly when `|n| ≤ 9223372036`, and is
refused as out of range otherwise; that is exactly the range where `n` seconds fit in a signed
64-bit count of nanoseconds and where multiplying in 64 bits gives the true product. Any other
text gets the duration reader's answer, a refusal reported as an invalid limit. Once the endpoint
and identifier rules pass, checking passes its time limit step exactly when the limit reads and
is not negative. -/
theorem probeTimeout_bound_exact (c : Config) :
    (c.timeout = "" → c.probeTimeout = .ok ⟨0⟩) ∧
    (∀ n, DecimalInt c.timeout n →
      (c.probeTimeout = .ok ⟨n * 1000000000⟩ ↔ n.natAbs ≤ 9223372036) ∧
      (9223372036 < n.natAbs → c.probeTimeout = .error (.timeoutRange c.timeout))) ∧
    (∀ n : Int, (-2 ^ 63 ≤ n * 1000000000 ∧ n * 1000000000 ≤ 2 ^ 63 - 1) ↔ n.natAbs ≤ 9223372036) ∧
    (∀ n : Int, (Int64.ofInt n * 1000000000).toInt = n * 1000000000 ↔ n.natAbs ≤ 9223372036) ∧
    (c.timeout ≠ "" → (∀ n, ¬DecimalInt c.timeout n) →
      c.probeTimeout = (Duration.parse (Utf8.ofString c.timeout)).mapError (.badTimeout c.timeout)) ∧
    (∀ missing : String → Bool, (c.url = "" ∨ isUrl c.url = true) →
      (c.deviceId = "" ∨ isUuid c.deviceId = true) →
      ((c.validate missing = .ok () ∨ c.validate missing = .error (.schemaMissing c.schema)) ↔
        ∃ t, c.probeTimeout = .ok t ∧ 0 ≤ t.nanos)) := by
  refine ⟨fun h => ?_, fun n hn => ?_, seconds_fit_iff, toInt_mul_second_iff,
    probeTimeout_of_not_decimalInt, fun missing => validate_timeout_step missing⟩
  · unfold probeTimeout
    rw [h]
    rfl
  · rw [probeTimeout_of_decimalInt hn]
    by_cases hb : 9223372036 < n.natAbs
    · simp [hb]
    · simp [hb]
      omega

/-- The most negative limit accepted: a sign and a leading zero, read as seconds. -/
theorem probeTimeout_most_negative :
    DecimalInt "-09223372036" (-9223372036) ∧
      ({ timeout := "-09223372036" } : Config).probeTimeout = .ok ⟨-9223372036000000000⟩ := by
  have hn : DecimalInt "-09223372036" (-9223372036) := (readInt_eq_some_iff _ _).mp (by decide)
  exact ⟨hn, ((probeTimeout_bound_exact { timeout := "-09223372036" }).2.1 _ hn).1.mpr (by decide)⟩

end Inventory.Config

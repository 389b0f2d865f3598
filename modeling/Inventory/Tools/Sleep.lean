import Inventory.Tools.Basic
import Inventory.Number.Reading
/-!
# sleep

`sleep` waits for the sum of its intervals. An interval is a real number as the C library
reads one (space, sign, decimal or hex, exponent, `inf`), not negative, with at most one
suffix: `s` seconds (the default), `m` minutes, `h` hours, `d` days. Bad intervals are each
reported, and then the hint; any option but `--help` and `--version` is invalid. A deadline
inside the wait cuts the process off there. Waits are counted in whole nanoseconds, rounded
up.
-/

set_option autoImplicit false

namespace Inventory.Tools

open Program Number

/-- The seconds of a unit suffix. -/
def unitSeconds : Bytes → Option Nat
  | [] => some 1
  | [0x73] => some 1
  | [0x6D] => some 60
  | [0x68] => some 3600
  | [0x64] => some 86400
  | _ => none

/-- **An interval** in nanoseconds, rounded up; none for forever. -/
def interval (a : Bytes) : Except Unit (Option Nat) :=
  let rd := readReal double a
  if rd.used == 0 then .error ()
  else
    match unitSeconds (a.drop rd.used) with
    | none => .error ()
    | some unit =>
      match rd.value with
      | .nan _ => .error ()
      | .infinite true => .error ()
      | .infinite false => .ok none
      | .finite negative m e =>
        if negative && m != 0 then .error ()
        else
          let scaled := m * unit * 1000000000
          if e ≥ 0 then .ok (some (scaled * Nat.pow 2 e.toNat))
          else
            let d := Nat.pow 2 e.natAbs
            .ok (some ((scaled + d - 1) / d))

/-- The options of `sleep`. -/
def sleepOptions : OptionSpec := { longs := [("help", false), ("version", false)] }

/-- **sleep.** -/
def sleep : Tool := fun ctx args _ =>
  match sleepOptions.scan args with
  | .error m => usageError ctx "sleep" m 1
  | .ok parsed =>
    let names := operands parsed
    if names.isEmpty then usageError ctx "sleep" "missing operand" 1
    else
      let bad := names.filter fun a => !(interval a).toBool
      if !bad.isEmpty then
        finish ctx [] (Utf8.ofString (String.join (bad.map fun a =>
          "sleep: invalid time interval " ++ quoted (Utf8.decode a) ++ "\n") ++ tryHelp "sleep")) 1
      else
        let waits := names.filterMap fun a => (interval a).toOption
        let forever := waits.any Option.isNone
        let total := (waits.filterMap id).foldl (· + ·) 0
        match ctx.deadline with
        | some d =>
          if forever || d ≤ ctx.clock + total then { status := .cut, files := ctx.files, clock := d }
          else { files := ctx.files, clock := ctx.clock + total }
        | none =>
          if forever then { status := .cut, files := ctx.files, clock := ctx.clock }
          else { files := ctx.files, clock := ctx.clock + total }

end Inventory.Tools

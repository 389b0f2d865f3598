import Inventory.Text.Quote
import Inventory.Text.Space
import Inventory.Time.Duration
/-!
# Probe commands and their failures

A probe is an external program whose standard output is the hardware document. A `Command`
names it, its arguments and an optional time limit (zero or less means none); its text is
the name and the arguments joined by single spaces, with white space trimmed from the ends.

A `Failure` says why a run gave no document. Its message reads
`probe "<command>": <what happened>`, then ` (exit code n)` for a non-zero code, then
`: <stderr>` when the program wrote to its error stream, and last `: <cause>` only when
there is a cause and no exit code.
-/

set_option autoImplicit false

namespace Inventory.Probe

/-- A program to run and how long it may take. -/
structure Command where
  name : String
  args : List String := []
  timeout : Duration := ⟨0⟩
  deriving DecidableEq, Repr, Inhabited

/-- The program run when none is configured. -/
def defaultName : String := "lshw"

/-- **The default probe**: the hardware lister asked for its JSON output. -/
def Command.default : Command := { name := defaultName, args := ["-json"] }

/-- **The text of a command**: name and arguments, space-separated, trimmed. -/
def Command.text (c : Command) : String :=
  Text.trim (c.name ++ " " ++ " ".intercalate c.args)

/-- Why a probe gave no document. -/
structure Failure where
  command : String := ""
  message : String
  exitCode : Int := 0
  stderr : String := ""
  cause : Option String := none
  deriving DecidableEq, Repr, Inhabited

/-- **The message of a failure.** -/
def Failure.text (e : Failure) : String :=
  let head := "probe " ++ Text.quote e.command ++ ": " ++ e.message
  let code := if e.exitCode != 0 then " (exit code " ++ toString e.exitCode ++ ")" else ""
  let err := if e.stderr.isEmpty then "" else ": " ++ e.stderr
  let cause := match e.cause with
    | some c => if e.exitCode == 0 then ": " ++ c else ""
    | none => ""
  head ++ code ++ err ++ cause

end Inventory.Probe

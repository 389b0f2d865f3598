import Inventory.Probe.Command
import Inventory.Program.Exec
/-!
# Running the probe

A probe run starts the command's program with its arguments and no input, and collects
what it writes. The run fails

* before anything starts when the program name is blank (`probe command is empty`);
* when the program cannot be started (`failed to start probe`, with the reason);
* when the time limit passes first (`probe was cancelled`, because the deadline was
  exceeded);
* when the program ends badly (`probe failed`, with its exit code, `-1` for a signal).

A failure carries the error stream with white space trimmed from both ends.
-/

set_option autoImplicit false

namespace Inventory.Probe

open Program

/-- What a run of the probe wrote, how long it took, and the file tree after it. -/
structure Capture where
  stdout : Bytes := []
  stderr : Bytes := []
  duration : Nat := 0
  files : Files

/-- What a run gives: what was collected, if the program was named, and the failure, if any. -/
structure Ran where
  capture : Option Capture
  failure : Option Failure

/-- **Running the probe** in a context, finding programs on a search path. -/
def run (ctx : Context) (searchPath : String) (cmd : Command) : Ran :=
  if (Text.trim cmd.name).isEmpty then
    { capture := none, failure := some { message := "probe command is empty" } }
  else
    let deadline := if cmd.timeout.nanos > 0 then some cmd.timeout.nanos.toNat else none
    let ctx := { ctx with deadline, clock := 0 }
    match Program.start ctx searchPath cmd.name cmd.args [] with
    | .error e =>
      { capture := some { files := ctx.files }
        failure := some { command := cmd.text, message := "failed to start probe", cause := some e.message } }
    | .ok o =>
      let capture : Capture := { stdout := o.stdout, stderr := o.stderr, duration := o.clock, files := o.files }
      let stderr := Utf8.decode (Text.trimBytes o.stderr)
      let failure : Option Failure := match o.status with
        | .exited 0 => none
        | .cut =>
          let cause := some "context deadline exceeded"
          some { command := cmd.text, message := "probe was cancelled", stderr, cause }
        | st => some { command := cmd.text, message := "probe failed", exitCode := st.code, stderr }
      { capture := some capture, failure }

end Inventory.Probe

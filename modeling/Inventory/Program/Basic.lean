import Inventory.Host.Files
import Inventory.Text.Quote
/-!
# Programs

A process runs a program with arguments, an environment, a working directory, the file tree
and an input stream; it writes two byte streams and ends in a `Status`: an exit code, death
by a signal, or being cut off at its deadline. Time is counted in nanoseconds and passes
only while a program waits.

Starting can fail before anything runs (`StartError`): a bare name that no directory of the
search path holds as an executable file, a name that is a directory, or a file the system
refuses to execute.
-/

set_option autoImplicit false

namespace Inventory.Program

/-- How a process ended. -/
inductive Status where
  /-- It exited with this code (0 to 255). -/
  | exited (code : Nat)
  /-- A signal ended it. -/
  | signaled (signal : Nat)
  /-- Its deadline passed and it was stopped. -/
  | cut
  deriving DecidableEq, Repr

/-- The process ended well. -/
def Status.ok : Status → Bool
  | .exited 0 => true
  | _ => false

/-- The code a waiting parent reads: the exit code, or `-1` when no exit took place. -/
def Status.code : Status → Int
  | .exited c => c
  | _ => -1

/-- The exit code a shell reports for a command: a signal `n` reads as `128 + n`. -/
def Status.shellCode : Status → Nat
  | .exited c => c
  | .signaled s => 128 + s
  | .cut => 128 + 9

/-- The signals a process may be sent, by number. -/
def signalNames : List (String × Nat) :=
  [("HUP", 1), ("INT", 2), ("QUIT", 3), ("ILL", 4), ("TRAP", 5), ("ABRT", 6), ("BUS", 7),
    ("FPE", 8), ("KILL", 9), ("USR1", 10), ("SEGV", 11), ("USR2", 12), ("PIPE", 13),
    ("ALRM", 14), ("TERM", 15), ("STKFLT", 16), ("CHLD", 17), ("CONT", 18), ("STOP", 19),
    ("TSTP", 20), ("TTIN", 21), ("TTOU", 22), ("URG", 23), ("XCPU", 24), ("XFSZ", 25),
    ("VTALRM", 26), ("PROF", 27), ("WINCH", 28), ("IO", 29), ("PWR", 30), ("SYS", 31)]

/-- A signal whose default action ends the process. -/
def signalEnds (n : Nat) : Bool :=
  1 ≤ n && n ≤ 64 && !([17, 18, 19, 20, 21, 22, 23, 28] : List Nat).contains n

/-- What a process has to work with. -/
structure Context where
  files : Files
  cwd : String
  env : List (String × String) := []
  /-- Nanoseconds since the probe started. -/
  clock : Nat := 0
  /-- When the probe is stopped, if ever. -/
  deadline : Option Nat := none
  /-- The process number of the running shell. -/
  pid : Nat := 4242
  deriving Inhabited

/-- The value of an environment variable. -/
def Context.getEnv (c : Context) (k : String) : Option String :=
  (c.env.find? (·.1 == k)).map (·.2)

/-- What a finished process leaves: its two streams, how it ended, the file tree and the
clock after it. -/
structure Outcome where
  stdout : Bytes := []
  stderr : Bytes := []
  status : Status := .exited 0
  files : Files
  clock : Nat
  /-- How many bytes of its input the process read. -/
  inputUsed : Nat := 0
  deriving Inhabited

/-- Why a program could not be started. -/
inductive StartError where
  /-- No directory of the search path holds the name. -/
  | notFound (name : String)
  /-- The name, looked up as a path, is unusable. -/
  | unusable (name : String) (e : Errno)
  /-- The system refused to execute the file. -/
  | refused (path : String) (e : Errno)
  deriving DecidableEq, Repr

/-- Starting a program: the context, the program's path, its arguments (the name it is called by
first) and its input. -/
abbrev Launch := Context → String → List Bytes → Bytes → Except StartError Outcome

/-- The message of a start failure. -/
def StartError.message : StartError → String
  | .notFound n => "exec: " ++ Text.quote n ++ ": executable file not found in $PATH"
  | .unusable n e => "exec: " ++ Text.quote n ++ ": " ++ e.text
  | .refused p e => "fork/exec " ++ p ++ ": " ++ e.text

end Inventory.Program

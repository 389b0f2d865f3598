import Inventory.Shell.Builtin.Basic
/-!
# Signals: kill and trap

Signals are named without their `SIG` prefix (which may be given, in any case) or by number;
0 is `EXIT`, the shell's own end. `kill` sends a signal to processes: the only process here
is the shell itself (its own number, or 0 for its group); any other number is no such
process. `kill -l` names signals. `trap` sets, resets and lists the actions run when a
signal arrives or the shell exits.
-/

set_option autoImplicit false

namespace Inventory.Shell

open Program

/-- The number of signals, 0 included. -/
def signalCount : Nat := 65

/-- **The name of a signal** by number. -/
def signalName (n : Nat) : String :=
  if n == 0 then "EXIT"
  else
    match signalNames.find? (·.2 == n) with
    | some (s, _) => s
    | none =>
      if n == 34 then "RTMIN"
      else if 35 ≤ n && n ≤ 49 then "RTMIN+" ++ toString (n - 34)
      else if 50 ≤ n && n ≤ 63 then "RTMAX-" ++ toString (64 - n)
      else if n == 64 then "RTMAX"
      else toString n

/-- ASCII upper case. -/
def upperText (s : Bytes) : String := ascii (s.map fun c => if 0x61 ≤ c && c ≤ 0x7A then c - 32 else c)

/-- **A signal by name or number**, from `least` on. -/
def decodeSignal (s : Bytes) (least : Nat) : Option Nat :=
  if !s.isEmpty && s.all isDigitByte then
    let n := s.foldl (fun n d => n * 10 + (d.toNat - 48)) 0
    if n < signalCount then some n else none
  else
    let up := upperText s
    let name := if up.startsWith "SIG" then (up.drop 3).toString else up
    (List.range signalCount).find? fun n => least ≤ n && signalName n == name

/-- **How a signal is described** when it ends a command. -/
def signalDescription (n : Nat) : String :=
  match n with
  | 1 => "Hangup" | 2 => "Interrupt" | 3 => "Quit" | 4 => "Illegal instruction"
  | 5 => "Trace/breakpoint trap" | 6 => "Aborted" | 7 => "Bus error"
  | 8 => "Floating point exception" | 9 => "Killed" | 10 => "User defined signal 1"
  | 11 => "Segmentation fault" | 12 => "User defined signal 2" | 13 => "Broken pipe"
  | 14 => "Alarm clock" | 15 => "Terminated" | 16 => "Stack fault" | 17 => "Child exited"
  | 18 => "Continued" | 19 => "Stopped (signal)" | 20 => "Stopped" | 21 => "Stopped (tty input)"
  | 22 => "Stopped (tty output)" | 23 => "Urgent I/O condition" | 24 => "CPU time limit exceeded"
  | 25 => "File size limit exceeded" | 26 => "Virtual timer expired"
  | 27 => "Profiling timer expired" | 28 => "Window changed" | 29 => "I/O possible"
  | 30 => "Power failure" | 31 => "Bad system call"
  | _ =>
    if 34 ≤ n && n ≤ 64 then "Real-time signal " ++ toString (n - 34)
    else "Unknown signal " ++ toString n

/-- The report of a command ended by a signal: none for an interrupt or a broken pipe. -/
def signalReport (n : Nat) : Bytes :=
  if n == 2 || n == 13 then [] else Utf8.ofString (signalDescription n ++ "\n")

/-- The listing of `kill -l`. -/
def signalListing : Bytes :=
  Utf8.ofString ("0\n" ++ String.join ((List.range (signalCount - 1)).map fun i => signalName (i + 1) ++ "\n"))

/-- The usage message of `kill`. -/
def killUsage : String :=
  "Usage: kill [-s sigspec | -signum | -sigspec] [pid | job]... or\nkill -l [exitstatus]"

/-- Send a signal to each process: the signals the shell sent itself, and the reply. -/
def killEach (st : State) (signal : Nat) : List Bytes → Reply → Except Reply (Reply × List Nat)
  | [], r => .ok (r, [])
  | a :: rest, r =>
    let (neg, digits) := match a with
      | 0x2D :: d => (true, d)
      | _ => (false, a)
    match count? digits with
    | none => .error (st.raise "kill" (illegalNumber digits))
    | some pid =>
      if !neg && (pid == st.ctx.pid || pid == 0) then do
        let (r, sent) ← killEach st signal rest r
        .ok (r, signal :: sent)
      else
        killEach st signal rest { r with err := r.err ++ st.note "kill" "No such process\n", status := 1 }

/-- **kill**: the reply and the signals the shell sent itself. -/
def killCmd (st : State) (args : List Bytes) : Reply × List Nat :=
  let usage : Reply := st.raise "kill" killUsage
  match args with
  | [] => (usage, [])
  | first :: more =>
    let parsed : Except Reply (Option Nat × Bool × List Bytes) :=
      match first with
      | 0x2D :: spec =>
        match decodeSignal spec 1 with
        | some n => .ok (some n, false, more)
        | none =>
          match options [(0x6C, false), (0x73, true)] args with
          | .error m => .error (st.raise "kill" m)
          | .ok (opts, rest) =>
            opts.foldl (fun acc (c, arg) => do
              let (sig, list, rest) ← acc
              if c == 0x6C then .ok (sig, true, rest)
              else
                match decodeSignal arg 1 with
                | some n => .ok (some n, list, rest)
                | none => .error (st.raise "kill" ("invalid signal number or name: " ++ Utf8.decode arg)))
              (.ok (none, false, rest))
      | _ => .ok (none, false, args)
    match parsed with
    | .error r => (r, [])
    | .ok (sig, list, rest) =>
      let sig := if !list && sig.isNone then some 15 else sig
      if (sig.isNone || rest.isEmpty) != list then (usage, [])
      else if list then
        match rest with
        | [] => ({ out := signalListing }, [])
        | a :: _ =>
          match count? a with
          | none => (st.raise "kill" (illegalNumber a), [])
          | some n =>
            let n := if n > 128 then n - 128 else n
            if 0 < n && n < signalCount then ({ out := Utf8.ofString (signalName n ++ "\n") }, [])
            else (st.raise "kill" ("invalid signal number or exit status: " ++ Utf8.decode a), [])
      else
        match killEach st (sig.getD 15) rest {} with
        | .ok r => r
        | .error r => (r, [])

/-- **trap**: list the actions, or set (or with `-` reset) the action of each signal. A name
that is no signal stops with status 1. -/
def trapCmd : Builtin := fun st args =>
  match options [] args with
  | .error m => (st, st.raise "trap" m)
  | .ok (_, []) =>
    let sorted := st.traps.mergeSort fun a b => a.1 ≤ b.1
    (st, { out := (sorted.map fun (n, action) =>
      Utf8.ofString "trap -- " ++ singleQuote action ++ Utf8.ofString (" " ++ signalName n ++ "\n")).flatten })
  | .ok (_, first :: more) =>
    let (action, signals) : Option Bytes × List Bytes :=
      if more.isEmpty || (decodeSignal first 0).isSome then (none, first :: more)
      else (if first == [0x2D] then none else some first, more)
    signals.foldl (fun (acc : State × Reply) s =>
      let (st, r) := acc
      if r.status != 0 then acc
      else
        match decodeSignal s 0 with
        | none => (st, { err := Utf8.ofString "trap: " ++ s ++ Utf8.ofString ": bad trap\n", status := 1 })
        | some n =>
          let traps := st.traps.filter (·.1 != n)
          ({ st with traps := match action with
            | some a => traps ++ [(n, a)]
            | none => traps }, r)) (st, {})

end Inventory.Shell

import Inventory.Shell.Parse
import Inventory.Shell.Redirect
import Inventory.Shell.Builtin.Output
import Inventory.Shell.Builtin.Vars
import Inventory.Shell.Builtin.Lookup
import Inventory.Shell.Builtin.Signal
/-!
# Running commands

The evaluator takes a command and the shell's state to the state after it.

* **Simple commands**, step by step: the words are expanded into fields; the redirections are
  expanded and applied; the assignments are expanded and made, one after the other; with `-x`
  the command is written (after `PS4`) to the error stream as it was before the
  redirections; the name is looked up (after `command` prefixes). A failed redirection gives
  status 2, a name that is nowhere `name: not found` and status 127. Assignments alone stay
  and give the status of the last command substitution; before a special built-in they stay
  too; before anything else they hold for that command only, exported.
* **Errors.** An error in a special built-in, a failed redirection before one, and errors of
  expansion end the shell with status 2; errors in regular built-ins give status 2.
* **Control.** `&&`, `||`, `!`, `if`, `while`/`until` tests and what they hold are *tested*:
  there a failing command does not end a shell running with `-e`; elsewhere a failing simple
  command, pipeline or subshell does. `break n`, `continue n` and `return` travel outward as
  the state's `flow`.
* **Subshells.** Parentheses, every stage of a pipeline, command substitutions and background
  jobs run in a copy of the shell that starts with the traps reset; what it writes and the
  files it changes stay, nothing else. A command substitution leaves `$?` alone.
* **Functions** run with their arguments as positional parameters; variables made `local` get
  their values back at the end.
* `eval` and `.` read and run text one line at a time; `exec` replaces the shell by a program
  or makes redirections permanent; the trap of `EXIT` runs when a shell ends.

Nesting is bounded by fuel; running out of it is the stack overflow of a real shell (the
signal `SEGV`). A loop that runs out of its rounds is taken to be cut off at the deadline.
-/

set_option autoImplicit false

namespace Inventory.Shell

open Program

/-- How deep commands may nest. -/
def evalDepth : Nat := 1500

/-- How many rounds a loop runs before it is taken to have met the deadline. -/
def maxRounds : Nat := 200000

namespace State

/-- Stopped at the deadline. -/
def cutOff (st : State) : State :=
  { st with ended := some .cut, ctx := { st.ctx with clock := st.ctx.deadline.getD st.ctx.clock } }

/-- Out of nesting: the shell dies as by a stack overflow. -/
def overflow (st : State) : State := { st with ended := some (.signaled 11) }

/-- A copy of the shell for a subshell: traps with actions are reset. -/
def subshell (st : State) : State :=
  { st with traps := st.traps.filter (·.2.isEmpty), flow := .normal }

/-- The exit code of a shell that has ended (or would end now). -/
def exitCode (st : State) : Nat :=
  match st.ended with
  | some (.exited c) => c
  | some e => e.shellCode
  | none => st.status

/-- With `-e`, a failing command that is not tested ends the shell. -/
def checkExit (st : State) (tested : Bool) : State :=
  if st.opts.errexit && !tested && st.status != 0 && st.running then
    { st with ended := some (.exited st.status) }
  else st

/-- How a round of a loop left the flow: a `break` or `continue` meant for this loop is used
up; whether the loop goes on. -/
def afterRound (st : State) : State × Bool :=
  if st.ended.isSome then (st, false)
  else
    match st.flow with
    | .normal => (st, true)
    | .breaking n => ({ st with flow := if n ≤ 1 then .normal else .breaking (n - 1) }, false)
    | .continuing n =>
      if n ≤ 1 then ({ st with flow := .normal }, true)
      else ({ st with flow := .continuing (n - 1) }, false)
    | .returning => (st, false)

/-- Put back variables saved before temporary assignments or `local`, the latest first. -/
def restoreVars (st : State) (saved : List (String × Option Var)) : State :=
  saved.reverse.foldl (fun st (name, old) =>
    match old with
    | some v => st.putVar name v
    | none => { st with vars := st.vars.filter (·.1 != name) }) st

/-- Write a command line to the error stream as `-x` does, to a given channel. -/
def trace (st : State) (channel : Option Channel) (words : List Bytes) : State :=
  match channel with
  | none => st
  | some c =>
    let line := (st.value? "PS4").getD [] ++ (words.intersperse [0x20]).flatten ++ [0x0A]
    let saved := st.channel? 2
    let st := (st.setFd 2 c).emit 2 line
    match saved with
    | some s => st.setFd 2 s
    | none => st.closeFd 2

/-- **What a built-in's reply does**: messages, then output (a failed write is an I/O error
and status 1), the status, and for an error in a special built-in the end of the shell. -/
def deliver (st : State) (name : String) (reply : Reply) (special : Bool) : State :=
  let st := st.emit 2 reply.err
  let (st, ok) := st.write 1 reply.out
  let st := if ok then st else st.emit 2 (st.note name (name ++ ": I/O error"))
  let st := { st with status := if ok then reply.status else reply.status ||| 1 }
  if reply.raised && special then { st with ended := some (.exited 2) } else st

/-- **What a program's end does to the shell**: its output, the input it read, the files and
the clock, and its status. -/
def absorb (st : State) (o : Outcome) : State :=
  let st := { st with ctx := { st.ctx with files := o.files, clock := o.clock } }
  let st := st.consume 0 o.inputUsed
  let st := st.emit 1 o.stdout
  let st := st.emit 2 o.stderr
  match o.status with
  | .exited c => { st with status := c }
  | .signaled s => { st.emit 2 (signalReport s) with status := 128 + s }
  | .cut => { st with ended := some .cut, status := Status.cut.shellCode }

/-- The message and exit code of a program that could not be started. -/
def startFailure (e : StartError) (name : Bytes) : String × Nat :=
  let n := Utf8.decode name
  let errno := match e with
    | .refused _ err => err
    | .unusable _ err => err
    | .notFound _ => .noEntry
  if errno == .noEntry || errno == .notDir then
    (n ++ ": not found", if errno == .noEntry then 127 else 2)
  else (n ++ ": " ++ errno.sentence, if errno == .access then 126 else 2)

/-- **Running a program** at a path with its arguments (its name first). A file the system
cannot execute is run as a script by the shell. -/
def runProgram (launch : Launch) (st : State) (path : String) (argv : List Bytes) : State :=
  let input := st.readable 0
  let ctx := { st.ctx with env := st.environment }
  let result := match launch ctx path argv input with
    | .error (.refused _ .noExec) =>
      launch ctx "/bin/sh" (Utf8.ofString "/bin/sh" :: Utf8.ofString path :: argv.drop 1) input
    | r => r
  match result with
  | .ok o => st.absorb o
  | .error e =>
    let (msg, code) := startFailure e (argv.headD [])
    { st.complain msg with status := code }

/-- The message of a name found nowhere. -/
def notFound (st : State) (name : Bytes) (e : Errno) : State :=
  let msg := if e == .noEntry || e == .notDir then "not found" else e.sentence
  { st.complain (Utf8.decode name ++ ": " ++ msg) with status := 127 }

/-- Back from a function: its frame of `local` variables is given back. -/
def popFrame (st : State) : State :=
  match st.frames with
  | frame :: outer => { st with frames := outer }.restoreVars frame
  | [] => st

end State

/-- The built-in commands that only need the shell's state. -/
def plainBuiltin : String → Option Builtin
  | "echo" => some echoCmd
  | "printf" => some printfCmd
  | "test" => some (testCmd false)
  | "[" => some (testCmd true)
  | "pwd" => some pwdCmd
  | "cd" | "chdir" => some cdCmd
  | "umask" => some umaskCmd
  | "times" => some timesCmd
  | "true" | ":" | "alias" | "unalias" | "jobs" | "bg" | "fg" | "ulimit" => some (statusCmd 0)
  | "false" => some (statusCmd 1)
  | "export" => some (exportCmd false)
  | "readonly" => some (exportCmd true)
  | "unset" => some unsetCmd
  | "local" => some localCmd
  | "set" => some setCmd
  | "shift" => some shiftCmd
  | "read" => some readCmd
  | "getopts" => some getoptsCmd
  | "break" => some (loopCmd false)
  | "continue" => some (loopCmd true)
  | "type" => some typeCmd
  | "hash" => some hashCmd
  | "trap" => some trapCmd
  | _ => none

/-- The words after `command` and its `-p` options: the command to run and the search path,
or none when `command` itself is to run (other options, or nothing after them). -/
def commandArgs (path : Option String) : Nat → List Bytes → Option (List Bytes × Option String)
  | 0, _ => none
  | _, [] => none
  | k + 1, a :: rest =>
    match a with
    | [0x2D] => some (a :: rest, path)
    | [0x2D, 0x2D] => if rest.isEmpty then none else some (rest, path)
    | 0x2D :: letters =>
      if letters.all (· == 0x70) then commandArgs (some defaultPath) k rest else none
    | _ => some (a :: rest, path)

/-- **Resolving a command's words**: `command` prefixes are taken off (the name after them
is no function); the words left, whether the first built-in met was special, what the first
word leads to. -/
def resolveCommand (st : State) : Nat → List Bytes → Bool → Option String → Option Bool →
    State × List Bytes × Option Bool × Found
  | 0, argv, _, _, special => (st, argv, special, .missing .noEntry)
  | k + 1, argv, noFunctions, path, special =>
    match argv with
    | [] => (st, argv, special, .builtin false)
    | name :: rest =>
      let (st, found) := st.findCommand (Utf8.decode name) noFunctions path false
      match found with
      | .builtin sp =>
        let special := special.orElse fun _ => some sp
        if name == Utf8.ofString "command" then
          match commandArgs path (rest.length + 1) rest with
          | some (more, path) => resolveCommand st k more true path special
          | none => (st, argv, special, found)
        else (st, argv, special, found)
      | _ => (st, argv, special, found)

/-- Run the rounds of a loop while they say to go on: the state and the loop's status.
Running out of rounds is meeting the deadline. -/
def loopRounds (round : State → Nat → State × Nat × Bool) : Nat → State → Nat → State × Nat
  | 0, st, status => (st.cutOff, status)
  | n + 1, st, status =>
    let (st, status, again) := round st status
    if again then loopRounds round n st status else (st, status)

/-- **A round of `while`** (or `until` when `negated`): the test, then the body. -/
def whileRound (eval : State → Cmd → Bool → State) (test body : Cmd) (negated tested : Bool)
    (st : State) (status : Nat) : State × Nat × Bool :=
  let st := eval st test true
  if st.ended.isSome then (st, status, false)
  else if st.flow != .normal then
    let returning := st.flow == .returning
    let (st, again) := st.afterRound
    (st, if returning then st.status else status, again)
  else if (st.status == 0) == negated then (st, status, false)
  else
    let st := eval st body tested
    let status := st.status
    let (st, again) := st.afterRound
    (st, status, again)

/-- **The rounds of `for`**, one per field: the state and the status of the last body. -/
def forRounds (round : State → Bytes → State × Bool) : List Bytes → State → Nat → State × Nat
  | [], st, status => (st, status)
  | x :: xs, st, _ =>
    let (st, again) := round st x
    if again then forRounds round xs st st.status else (st, st.status)

/-- Whether one of the patterns of an arm matches, each expanded in turn. -/
def matchPatterns (pattern : State → Word → State × List PatChar) (text : Bytes) :
    State → List Word → State × Bool
  | st, [] => (st, false)
  | st, w :: ws =>
    let (st, p) := pattern st w
    if st.ended.isSome then (st, false)
    else if patternMatches p text then (st, true)
    else matchPatterns pattern text st ws

/-- **The arm of a `case`** whose pattern first matches, if any. -/
def findArm (pattern : State → Word → State × List PatChar) (text : Bytes) :
    State → List CaseArm → State × Option Cmd
  | st, [] => (st, none)
  | st, .arm ps body :: rest =>
    match matchPatterns pattern text st ps with
    | (st, true) => (st, some body)
    | (st, false) => if st.ended.isSome then (st, none) else findArm pattern text st rest

/-- **Reading and running lines** of a text: the state, and whether any command ran. A
syntax error ends the shell. -/
def runLines (eval : State → Cmd → State) : Nat → State → Reader → Bool → State × Bool
  | 0, st, _, ran => (st, ran)
  | n + 1, st, r, ran =>
    let (line, r') := r.nextLine
    let st := if st.opts.verbose then st.emit 2 (r.input.take (r.input.length - r'.input.length)) else st
    match line with
    | .finished => (st, ran)
    | .blank => runLines eval n st r' ran
    | .fault e => ({ st with line := e.line }.fail e.message, ran)
    | .run c =>
      if st.opts.noexec then runLines eval n st r' ran
      else
        let st := eval st c
        if !st.running then (st, true) else runLines eval n st r' true

mutual

/-- **Evaluating a command**; `tested` when its status is being tested. -/
def evalCmd (launch : Launch) : Nat → State → Cmd → Bool → State
  | 0, st, _, _ => st.overflow
  | k + 1, st, c, tested =>
    if !st.running then st
    else
      match c with
      | .nothing => st
      | .simple line assigns words redirs =>
        (evalSimple launch k { st with line } assigns words redirs tested).checkExit tested
      | .not body =>
        let st := evalCmd launch k st body true
        if st.ended.isSome then st else { st with status := if st.status == 0 then 1 else 0 }
      | .pipe stages => (runPipeline launch k st stages none tested).checkExit tested
      | .andThen a b =>
        let st := evalCmd launch k st a true
        if !st.running || st.status != 0 then st else evalCmd launch k st b tested
      | .orElse a b =>
        let st := evalCmd launch k st a true
        if !st.running || st.status == 0 then st else evalCmd launch k st b tested
      | .seq a b =>
        let st := evalCmd launch k st a tested
        if !st.running then st else evalCmd launch k st b tested
      | .background body => evalBackground launch k st body
      | .subshell line body redirs =>
        (evalSubshell launch k { st with line } body redirs tested).checkExit tested
      | .redirected line body redirs =>
        let st := { st with line }
        let saved := st.fds
        let (st, ready) := expandRedirs (substitute launch k) st redirs
        if st.ended.isSome then st
        else
          let (st, ok) := st.applyReady (expandBody (substitute launch k)) ready
          let touched := ready.map Ready.fd
          if st.ended.isSome then st
          else if !ok then { st with status := 2 }.restoreFds saved touched
          else (evalCmd launch k st body tested).restoreFds saved touched
      | .ifThen test body other =>
        let st := evalCmd launch k st test true
        if !st.running then st
        else if st.status == 0 then evalCmd launch k st body tested
        else
          match other with
          | some o => evalCmd launch k st o tested
          | none => { st with status := 0 }
      | .loop negated test body =>
        let round := whileRound (fun st c t => evalCmd launch k st c t) test body negated tested
        let (st, status) := loopRounds round maxRounds { st with loops := st.loops + 1 } 0
        let st := { st with loops := st.loops - 1 }
        if st.ended.isSome then st else { st with status }
      | .forEach line name items body =>
        let st := { st with line }
        let (st, fields) := match items with
          | some ws => expandFields (substitute launch k) st ws
          | none => (st, st.params)
        if st.ended.isSome then st
        else
          let round (st : State) (x : Bytes) : State × Bool :=
            match st.assign name x with
            | .error m => (st.fail m, false)
            | .ok st => (evalCmd launch k st body tested).afterRound
          let (st, status) := forRounds round fields { st with loops := st.loops + 1 } 0
          let st := { st with loops := st.loops - 1 }
          if st.ended.isSome then st else { st with status }
      | .caseOf line subject arms =>
        let st := { st with line }
        let (st, text) := expandText (substitute launch k) st subject
        if st.ended.isSome then st
        else
          match findArm (expandPattern (substitute launch k)) text st arms with
          | (st, some .nothing) => { st with status := 0 }
          | (st, some body) => if st.ended.isSome then st else evalCmd launch k st body tested
          | (st, none) => if st.ended.isSome then st else { st with status := 0 }
      | .function _ name _ =>
        { st with funcs := (st.funcs.filter (·.1 != name)) ++ [(name, c)], status := 0 }

/-- **A simple command.** -/
def evalSimple (launch : Launch) : Nat → State → List Word → List Word → List Redir → Bool → State
  | 0, st, _, _, _, _ => st.overflow
  | k + 1, st, assigns, words, redirs, tested =>
    let run := substitute launch k
    let st := { st with substStatus := 0 }
    let (st, argv) := expandFields run st words
    if st.ended.isSome then st
    else
      let errChannel := st.channel? 2
      let saved := st.fds
      let (st, ready) := expandRedirs run st redirs
      if st.ended.isSome then st
      else
        let (st, redirOk) := st.applyReady (expandBody run) ready
        let touched := ready.map Ready.fd
        if st.ended.isSome then st
        else
          let (st, prior, texts) := assignWords launch k st assigns (!argv.isEmpty) [] []
          if st.ended.isSome then st
          else
            let st := if st.opts.xtrace then st.trace errChannel (texts ++ argv) else st
            match argv with
            | [] => { st with status := if redirOk then st.substStatus else 2 }.restoreFds saved touched
            | _ =>
              let (st, argv, special, found) := resolveCommand st (argv.length + 1) argv false none none
              let special := special.getD false
              let keepFds := found.isBuiltin && argv == [Utf8.ofString "exec"]
              let close (st : State) : State :=
                let st := if keepFds then st else st.restoreFds saved touched
                if special then st else st.restoreVars prior
              match found with
              | .missing e => close (st.notFound (argv.headD []) e)
              | _ =>
                if !redirOk then
                  let st := { st with status := 2 }
                  close (if special then { st with ended := some (.exited 2) } else st)
                else
                  match found, argv with
                  | .function defn, _ :: args => close (callFunction launch k st defn args tested)
                  | .builtin _, name :: args =>
                    close (runBuiltin launch k st (Utf8.decode name) args special tested)
                  | .program path _, _ => close (st.runProgram launch path argv)
                  | _, _ => close st

/-- **Assignments before a command**, one after the other: kept plainly when no command
follows, otherwise exported with the values they replace saved. The state, the saved values
(latest last) and the assignment texts. -/
def assignWords (launch : Launch) : Nat → State → List Word → Bool → List (String × Option Var) →
    List Bytes → State × List (String × Option Var) × List Bytes
  | 0, st, _, _, prior, texts => (st.overflow, prior, texts)
  | _, st, [], _, prior, texts => (st, prior, texts)
  | k + 1, st, w :: ws, temporary, prior, texts =>
    let (st, text) := expandAssignment (substitute launch k) st w
    if st.ended.isSome then (st, prior, texts)
    else
      let name := ascii (text.takeWhile (· != 0x3D))
      let value := text.drop (name.length + 1)
      let old := st.getVar? name
      match st.assign name value with
      | .error m => (st.fail m, prior, texts)
      | .ok st =>
        if temporary then
          let st := st.putVar name { ((st.getVar? name).getD {}) with exported := true }
          assignWords launch k st ws temporary (prior ++ [(name, old)]) (texts ++ [text])
        else assignWords launch k st ws temporary prior (texts ++ [text])

/-- **Calling a function** with its arguments. -/
def callFunction (launch : Launch) : Nat → State → Cmd → List Bytes → Bool → State
  | 0, st, _, _, _ => st.overflow
  | k + 1, st, defn, args, tested =>
    match defn with
    | .function line _ body =>
      let outer := st
      let st := { st with params := args, optInd := 1, optOffset := 0, funcLine := line,
                          loops := 0, calls := st.calls + 1, frames := [] :: st.frames }
      let st := (evalCmd launch k st body tested).popFrame
      { st with params := outer.params, optInd := outer.optInd, optOffset := outer.optOffset,
                funcLine := outer.funcLine, loops := outer.loops, calls := outer.calls,
                flow := if st.flow == .returning then .normal else st.flow }
    | _ => st

/-- **Running a built-in command**; its messages name it. -/
def runBuiltin (launch : Launch) : Nat → State → String → List Bytes → Bool → Bool → State
  | 0, st, _, _, _, _ => st.overflow
  | k + 1, st, name, args, special, tested =>
    let outer := st.cmdName
    let st := { st with cmdName := some name }
    let st := match name with
      | "eval" => evalText launch k st ((args.intersperse [0x20]).flatten) tested
      | "." => sourceFile launch k st args special
      | "exec" =>
        match args with
        | [] => st
        | prog :: _ =>
          let p := Utf8.decode prog
          let found : Except Errno String := if p.any (· == '/') then .ok p
            else findOnPath st.ctx.files st.ctx.cwd p (st.searchPath.splitOn ":") .noEntry
          match found with
          | .ok path =>
            let st := st.runProgram launch path args
            if st.ended.isSome then st else { st with ended := some (.exited st.status) }
          | .error e =>
            let st := st.notFound prog e
            let code := if e == Errno.noEntry then 127 else if e == Errno.access then 126 else 2
            { st with status := code, ended := some (.exited code) }
      | "exit" =>
        match args with
        | [] => { st with ended := some (.exited st.status) }
        | a :: _ =>
          match count? a with
          | some n => { st with ended := some (.exited n), status := n }
          | none => st.deliver name (st.raise name (illegalNumber a)) special
      | "return" =>
        match args with
        | [] => { st with flow := .returning }
        | a :: _ =>
          match count? a with
          | some n => { st with flow := .returning, status := n }
          | none => st.deliver name (st.raise name (illegalNumber a)) special
      | "command" =>
        match options [(0x70, false), (0x76, false), (0x56, false)] args with
        | .error m => st.deliver name (st.raise name m) special
        | .ok (opts, names) =>
          let verbose := opts.any (·.1 == 0x56)
          if (verbose || opts.any (·.1 == 0x76)) then
            let (st, reply) := commandDescribe st verbose (opts.any (·.1 == 0x70)) names
            st.deliver name reply special
          else { st with status := 0 }
      | "kill" =>
        let (reply, sent) := killCmd st args
        selfSignals launch k (st.deliver name reply special) sent
      | "wait" =>
        match args with
        | [] => { st with status := 0 }
        | a :: _ =>
          let pid := count? a
          match st.jobs.find? fun (job : Nat × Nat) => some job.1 == pid with
          | some (_, code) => { st with status := code }
          | none => { st with status := 127 }
      | _ =>
        match plainBuiltin name with
        | some b =>
          let (st, reply) := b st args
          st.deliver name reply special
        | none => st
    { st with cmdName := outer }

/-- **Signals the shell sent itself**: a trap runs its action, an ignored signal nothing; a
signal whose default is to end a process ends the shell. -/
def selfSignals (launch : Launch) : Nat → State → List Nat → State
  | 0, st, _ => st.overflow
  | _, st, [] => st
  | k + 1, st, n :: rest =>
    if n == 0 || st.ended.isSome then selfSignals launch k st rest
    else
      match st.traps.find? (·.1 == n) with
      | some (_, action) =>
        if action.isEmpty then selfSignals launch k st rest
        else
          let status := st.status
          let st := evalText launch k st action false
          selfSignals launch k { st with status } rest
      | none =>
        if signalEnds n then { st with ended := some (.signaled n) }
        else selfSignals launch k st rest

/-- **Running a text** as `eval` does, line by line; nothing to run gives status 0. -/
def evalText (launch : Launch) : Nat → State → Bytes → Bool → State
  | 0, st, _, _ => st.overflow
  | k + 1, st, text, tested =>
    let (st, ran) := runLines (fun st c => evalCmd launch k st c tested) (text.length + 2) st
      (Reader.ofScript text) false
    if ran then st else { st with status := 0 }

/-- **`.`**: run the commands of a file, found on the search path when its name has no
slash; its messages name the file. -/
def sourceFile (launch : Launch) : Nat → State → List Bytes → Bool → State
  | 0, st, _, _ => st.overflow
  | k + 1, st, args, special =>
    match options [] args with
    | .error m => st.deliver "." (st.raise "." m) special
    | .ok (_, []) => { st with status := 0 }
    | .ok (_, file :: _) =>
      let f := Utf8.decode file
      let path : Except String String :=
        if f.any (· == '/') then .ok f
        else
          match findOnPath st.ctx.files st.ctx.cwd f (st.searchPath.splitOn ":") .noEntry with
          | .ok p => .ok p
          | .error _ => .error (f ++ ": not found")
      match path with
      | .error m => st.deliver "." (st.raise "." m) special
      | .ok p =>
        match st.ctx.files.read st.ctx.cwd p with
        | .error e => st.deliver "." (st.raise "." ("cannot open " ++ p ++ ": " ++ openFailure false e.errno)) special
        | .ok text =>
          let outer := st.cmdName
          let (st, ran) := runLines (fun st c => evalCmd launch k st c false) (text.length + 2)
            { st with cmdName := some p } (Reader.ofScript text) false
          let st := { st with cmdName := outer,
                              flow := if st.flow == .returning then .normal else st.flow }
          if ran then st else { st with status := 0 }

/-- **A subshell** with its redirections: expanded in the shell, applied in the copy. -/
def evalSubshell (launch : Launch) : Nat → State → Cmd → List Redir → Bool → State
  | 0, st, _, _, _ => st.overflow
  | k + 1, st, body, redirs, tested =>
    let (st, ready) := expandRedirs (substitute launch k) st redirs
    if st.ended.isSome then st
    else
      let child := st.subshell
      let (child, ok) := child.applyReady (expandBody (substitute launch k)) ready
      let child := if child.ended.isSome then child
        else if !ok then { child with ended := some (.exited 2), status := 2 }
        else evalCmd launch k child body tested
      st.rejoin (finishShell launch k child)

/-- **A pipeline**: each stage in a subshell, reading what the stage before wrote. -/
def runPipeline (launch : Launch) : Nat → State → List Cmd → Option Nat → Bool → State
  | 0, st, _, _, _ => st.overflow
  | _, st, [], _, _ => st
  | k + 1, st, c :: rest, input, tested =>
    let (st, out) : State × Option Nat :=
      if rest.isEmpty then (st, none)
      else
        let (st, id) := st.newStream []
        (st, some id)
    let child := st.subshell
    let child := match out with
      | some id => child.setFd 1 (.stream id)
      | none => child
    let child := match input with
      | some id => child.setFd 0 (.stream id)
      | none => child
    let child := finishShell launch k (evalCmd launch k child c tested)
    let st := st.rejoin child
    let st := match input with
      | some id => st.dropStream id
      | none => st
    if st.ended.isSome || rest.isEmpty then st else runPipeline launch k st rest out tested

/-- **A background job**: run to its end in a subshell reading nothing; status 0. -/
def evalBackground (launch : Launch) : Nat → State → Cmd → State
  | 0, st, _ => st.overflow
  | k + 1, st, body =>
    let child := st.subshell.setFd 0 .null
    let child := finishShell launch k (evalCmd launch k child body false)
    let pid := st.ctx.pid + 1 + st.jobs.length
    let joined := st.rejoin child
    let joined := match child.ended with
      | some (.signaled _) => { joined with ended := st.ended }
      | _ => joined
    { joined with status := 0, jobs := st.jobs ++ [(pid, child.exitCode)], lastJob := some pid }

/-- **A command substitution**: the command in a subshell writing to a new stream; `$?` is
left alone and the subshell's status kept for an assignment-only command. -/
def substitute (launch : Launch) : Nat → State → Cmd → State × Bytes
  | 0, st, _ => (st.overflow, [])
  | k + 1, st, c =>
    let (st, id) := st.newStream []
    let child := st.subshell.setFd 1 (.stream id)
    let child := finishShell launch k (evalCmd launch k child c false)
    let out := child.streamText id
    let joined := st.rejoin child
    ({ joined with status := st.status, substStatus := joined.status }.dropStream id, out)

/-- **The end of a shell**: the trap of `EXIT` runs (once) with `$?` the exit code, which stays
unless the trap exits otherwise. -/
def finishShell (launch : Launch) : Nat → State → State
  | 0, st => st.overflow
  | k + 1, st =>
    match st.ended with
    | some (.signaled _) | some .cut => st
    | _ =>
      match st.traps.find? (·.1 == 0) with
      | some (_, action) =>
        if action.isEmpty then st
        else
          let code := st.exitCode
          let st := { st with traps := st.traps.filter (·.1 != 0), ended := none, flow := .normal,
                              status := code }
          let st := evalText launch k st action false
          match st.ended with
          | some _ => st
          | none => { st with ended := some (.exited code) }
      | none => st

end

/-- **Running a script**: its lines, then the end of the shell. -/
def runScript (launch : Launch) (st : State) (script : Bytes) : State :=
  let (st, _) := runLines (fun st c => evalCmd launch evalDepth st c false) (script.length + 2) st
    (Reader.ofScript script) false
  finishShell launch evalDepth st

end Inventory.Shell

import Inventory.Tools.Basic
/-!
# env

`env` runs a command in a changed environment, or lists the environment when no command is
given. `-i` (or a lone `-`) starts from an empty environment, `-u name` removes a variable,
`-C dir` changes the working directory, and each `name=value` argument before the command
sets one; a variable set again keeps its place, a new one comes last.

The command is looked up on the `PATH` of the changed environment (`/bin:/usr/bin` when it
has none): the first directory whose entry can be executed. A command that is nowhere exits
with 127, one that may not be executed with 126, each after a message; an option error exits
with 125.
-/

set_option autoImplicit false

namespace Inventory.Tools

open Program

/-- The options of `env`, which stop at the first operand. -/
def envOptions : OptionSpec :=
  { shorts := [(0x69, false), (0x30, false), (0x75, true), (0x43, true), (0x76, false)]
    longs := [("ignore-environment", false), ("null", false), ("unset", true), ("chdir", true),
      ("debug", false), ("help", false), ("version", false)]
    permute := false }

/-- Set a variable: in its place when it is there, last when it is new. -/
def setEnv (env : List (String × String)) (k v : String) : List (String × String) :=
  if env.any (·.1 == k) then env.map fun (a, b) => if a == k then (a, v) else (a, b)
  else env ++ [(k, v)]

/-- **env**, given how to start programs and how to find one by name on a search path. -/
def env (launch : Launch) (find : Context → String → String → Except Errno String) : Tool :=
  fun ctx args input =>
    match envOptions.scan args with
    | .error m => usageError ctx "env" m 125
    | .ok parsed =>
      let rest := operands parsed
      let (clear, rest) := match rest with
        | [0x2D] :: more => (true, more)
        | _ => (false, rest)
      let clear := clear || given parsed 0x69 "ignore-environment"
      let unsets := parsed.filterMap fun
        | .short 0x75 v | .long "unset" v => some (Utf8.decode v)
        | _ => none
      match unsets.find? (·.any (· == '=')) with
      | some bad =>
        finish ctx [] (Utf8.ofString ("env: cannot unset " ++ quoted bad ++ ": Invalid argument\n")) 125
      | none =>
        let vars := if clear then [] else ctx.env
        let vars := vars.filter fun (k, _) => !unsets.contains k
        let assigns := rest.takeWhile (·.contains 0x3D)
        let command := rest.drop assigns.length
        let vars := assigns.foldl (fun vs a =>
          let k := a.takeWhile (· != 0x3D)
          setEnv vs (Utf8.decode k) (Utf8.decode (a.drop (k.length + 1)))) vars
        let nul := given parsed 0x30 "null"
        let dir := parsed.findSome? fun
          | .short 0x43 v | .long "chdir" v => some (Utf8.decode v)
          | _ => none
        let moved : Except String Context := match dir with
          | none => .ok { ctx with env := vars }
          | some d =>
            match ctx.files.lookup ctx.cwd d, ctx.files.locate ctx.cwd d with
            | .ok .dir, .ok abs => .ok { ctx with env := vars, cwd := abs }
            | .ok _, _ => .error ("env: cannot change directory to " ++ quoted d ++ ": Not a directory\n")
            | .error e, _ => .error ("env: cannot change directory to " ++ quoted d ++ ": " ++ e.sentence ++ "\n")
        match moved with
        | .error m => finish ctx [] (Utf8.ofString m) 125
        | .ok run =>
          match command with
          | [] =>
            let sep := if nul then "\x00" else "\n"
            finish ctx (Utf8.ofString (String.join (vars.map fun (k, v) => k ++ "=" ++ v ++ sep))) [] 0
          | name :: _ =>
            let n := Utf8.decode name
            let searchPath := ((vars.find? (·.1 == "PATH")).map (·.2)).getD "/bin:/usr/bin"
            let failed (e : Errno) : Outcome :=
              let code := if e == .noEntry || e == .notDir then 127 else 126
              finish ctx [] (Utf8.ofString ("env: " ++ quoted n ++ ": " ++ e.sentence ++ "\n")) code
            match find run searchPath n with
            | .error e => failed e
            | .ok path =>
              let attempt := match launch run path command input with
                | .error (.refused _ .noExec) =>
                  launch run "/bin/sh" (Utf8.ofString "/bin/sh" :: Utf8.ofString path :: command.drop 1) input
                | r => r
              match attempt with
              | .ok o => o
              | .error (.refused _ e) => failed e
              | .error (.unusable _ e) => failed e
              | .error (.notFound _) => failed .noEntry

end Inventory.Tools

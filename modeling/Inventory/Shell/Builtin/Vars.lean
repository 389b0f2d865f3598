import Inventory.Shell.Builtin.Basic
import Inventory.Shell.Expand
/-!
# Built-in commands on variables and parameters

* `export` and `readonly` mark variables, assigning those given as `name=value`; without
  names (or with `-p`) they list the marked variables, sorted, as commands that restore them.
* `unset` removes variables (or functions with `-f`); `local` saves variables for the end
  of the running function.
* `set` sets options and replaces the positional parameters; without arguments it lists
  the variables. `shift` drops positional parameters.
* `read` reads a line of the standard input into variables, split at `IFS`; the last
  variable takes the rest of the line.
* `getopts` reads the next option letter of the positional parameters (or of its own
  arguments).
* `break` and `continue` leave or go on with enclosing loops.

A name that is not a variable name is a `bad variable name`; a read-only variable refuses a
new value. Both are errors.
-/

set_option autoImplicit false

namespace Inventory.Shell

/-- The name part of an assignment argument and its value, if it has one. -/
def splitAssignment (a : Bytes) : Bytes × Option Bytes :=
  let name := a.takeWhile (· != 0x3D)
  if name.length < a.length then (name, some (a.drop (name.length + 1))) else (name, none)

/-- Byte order on names. -/
def nameLe (a b : String × Var) : Bool := bytesLe (Utf8.ofString a.1) (Utf8.ofString b.1)

/-- **The listing of variables** chosen by a test, sorted by name, each line starting with a
prefix. -/
def listVars (st : State) (prefix' : String) (pick : Var → Bool) : Bytes :=
  let chosen := (st.vars.filter fun (_, v) => pick v).mergeSort nameLe
  let lead := if prefix'.isEmpty then "" else prefix' ++ " "
  (chosen.map fun (k, v) =>
    Utf8.ofString (lead ++ k) ++
      (match v.value with
        | some x => [0x3D] ++ singleQuote x
        | none => []) ++ [0x0A]).flatten

/-- Mark each argument, assigning the given values; the first failure stops. -/
def markAll (cmd : String) (readonly : Bool) : State → List Bytes → State × Reply
  | st, [] => (st, {})
  | st, a :: rest =>
    let (name, value) := splitAssignment a
    if !isName name then (st, st.raise cmd (Utf8.decode name ++ ": bad variable name"))
    else
      match st.mark (ascii name) value readonly with
      | .ok st => markAll cmd readonly st rest
      | .error m => (st, st.raise cmd m)

/-- **export** and **readonly**. -/
def exportCmd (readonly : Bool) : Builtin := fun st args =>
  let cmd := if readonly then "readonly" else "export"
  match options [(0x70, false)] args with
  | .error m => (st, st.raise cmd m)
  | .ok (opts, rest) =>
    if !opts.isEmpty || rest.isEmpty then
      (st, { out := listVars st cmd fun v => if readonly then v.readonly else v.exported })
    else markAll cmd readonly st rest

/-- Unset each variable or function; the first failure stops. -/
def unsetAll (functions : Bool) : State → List Bytes → State × Reply
  | st, [] => (st, {})
  | st, a :: rest =>
    if functions then unsetAll functions { st with funcs := st.funcs.filter (·.1 != Utf8.decode a) } rest
    else if !isName a then (st, st.raise "unset" (Utf8.decode a ++ ": bad variable name"))
    else
      match st.unsetVar (ascii a) with
      | .ok st => unsetAll functions st rest
      | .error m => (st, st.raise "unset" m)

/-- **unset**: variables, or functions with `-f`; the last of `-v` and `-f` counts. -/
def unsetCmd : Builtin := fun st args =>
  match options [(0x76, false), (0x66, false)] args with
  | .error m => (st, st.raise "unset" m)
  | .ok (opts, rest) =>
    let functions := (opts.getLast?.map (·.1 == 0x66)).getD false
    unsetAll functions st rest

/-- Save variables in the running function's frame, assigning the given values. -/
def localAll : State → List Bytes → State × Reply
  | st, [] => (st, {})
  | st, a :: rest =>
    let (name, value) := splitAssignment a
    if name == [0x2D] then localAll st rest
    else
      let key := ascii name
      let st := match st.frames with
        | frame :: outer => { st with frames := (frame ++ [(key, st.getVar? key)]) :: outer }
        | [] => st
      match value with
      | some v =>
        match st.assign key v with
        | .ok st => localAll st rest
        | .error m => (st, st.raise "local" m)
      | none => localAll st rest

/-- **local.** -/
def localCmd : Builtin := fun st args =>
  if st.frames.isEmpty then (st, st.raise "local" "not in a function")
  else localAll st args

/-- **set**: options, then the positional parameters when any follow (or `--` came). -/
def setCmd : Builtin := fun st args =>
  if args.isEmpty then (st, { out := listVars st "" fun v => v.value.isSome })
  else
    match readShellOptions false (args.length + 1) { opts := st.opts, rest := args } with
    | .error m => (st, st.raise "set" m)
    | .ok r =>
      let out := match r.listing with
        | some true => st.opts.listing
        | some false => st.opts.commands
        | none => []
      let st := { st with opts := r.opts }
      let st := if r.ended || !r.rest.isEmpty then
          { st with params := r.rest, optInd := 1, optOffset := 0 }
        else st
      (st, { out })

/-- **shift.** -/
def shiftCmd : Builtin := fun st args =>
  match args with
  | [] =>
    if st.params.isEmpty then (st, st.raise "shift" "can't shift that many")
    else ({ st with params := st.params.drop 1, optInd := 1, optOffset := 0 }, {})
  | a :: _ =>
    match count? a with
    | none => (st, st.raise "shift" (illegalNumber a))
    | some n =>
      if n > st.params.length then (st, st.raise "shift" "can't shift that many")
      else ({ st with params := st.params.drop n, optInd := 1, optOffset := 0 }, {})

/-- **break** and **continue**: the count is clamped to the enclosing loops. -/
def loopCmd (continuing : Bool) : Builtin := fun st args =>
  let cmd := if continuing then "continue" else "break"
  let n := match args.head? with
    | none => some 1
    | some a => (count? a).bind fun n => if n == 0 then none else some n
  match n with
  | none => (st, st.raise cmd (illegalNumber (args.headD [])))
  | some n =>
    let n := min n st.loops
    if n == 0 then (st, {})
    else ({ st with flow := if continuing then .continuing n else .breaking n }, {})

/-! ## read -/

/-- **One line of input** for `read`: its bytes, each with whether a backslash protected it,
how many bytes it took, and whether the input ended before a line end. Without `raw`, a
backslash protects the next byte and joins a line end away; NUL bytes are dropped. -/
def readLine (raw : Bool) : Nat → Bytes → List (UInt8 × Bool) × Nat × Bool
  | 0, _ => ([], 0, true)
  | _, [] => ([], 0, true)
  | k + 1, c :: rest =>
    if c == 0x0A then ([], 1, false)
    else if c == 0 then
      let (l, n, e) := readLine raw k rest
      (l, n + 1, e)
    else if c == 0x5C && !raw then
      match rest with
      | [] => ([], 1, true)
      | 0x0A :: more =>
        let (l, n, e) := readLine raw k more
        (l, n + 2, e)
      | d :: more =>
        let (l, n, e) := readLine raw k more
        ((d, true) :: l, n + 2, e)
    else
      let (l, n, e) := readLine raw k rest
      ((c, false) :: l, n + 1, e)

/-- An unprotected `IFS` byte. -/
def isIfsByte (ifs : Bytes) (c : UInt8 × Bool) : Bool := !c.2 && ifs.contains c.1

/-- An unprotected `IFS` white-space byte. -/
def isIfsSpace (ifs : Bytes) (c : UInt8 × Bool) : Bool := isIfsByte ifs c && isIfsWhite c.1

/-- **Splitting a line among `n` variables**: fields end at `IFS` bytes, white space around a
separator belonging to it; the last variable takes the rest of the line without its
trailing white space, and without a lone separator ending a single field. -/
def splitRead (ifs : Bytes) : Nat → List (UInt8 × Bool) → List Bytes
  | 0, _ => []
  | n + 1, line =>
    let line := line.dropWhile (isIfsSpace ifs)
    if n == 0 then
      let rest := (line.reverse.dropWhile (isIfsSpace ifs)).reverse
      let field := rest.takeWhile (!isIfsByte ifs ·)
      let tail := (rest.drop field.length).dropWhile (isIfsSpace ifs)
      let value := match tail with
        | [] => field
        | [x] => if isIfsByte ifs x then field else rest
        | _ => rest
      [value.map (·.1)]
    else
      let field := line.takeWhile (!isIfsByte ifs ·)
      let after := (line.drop field.length).dropWhile (isIfsSpace ifs)
      let after := match after with
        | c :: more => if isIfsByte ifs c then more.dropWhile (isIfsSpace ifs) else after
        | [] => []
      field.map (·.1) :: splitRead ifs n after

/-- Assign values to variables in order; the first failure stops. -/
def assignAllVars (cmd : String) : State → List (Bytes × Bytes) → State × Reply
  | st, [] => (st, {})
  | st, (name, v) :: rest =>
    if !isName name then (st, st.raise cmd (Utf8.decode name ++ ": bad variable name"))
    else
      match st.assign (ascii name) v with
      | .ok st => assignAllVars cmd st rest
      | .error m => (st, st.raise cmd m)

/-- **read**: status 1 when the input ended before a line end. -/
def readCmd : Builtin := fun st args =>
  match options [(0x70, true), (0x72, false)] args with
  | .error m => (st, st.raise "read" m)
  | .ok (opts, names) =>
    if names.isEmpty then (st, st.raise "read" "arg count")
    else
      let raw := opts.any (·.1 == 0x72)
      let input := st.readable 0
      let (line, used, eof) := readLine raw (input.length + 1) input
      let st := st.consume 0 used
      let values := splitRead st.ifs names.length line
      let (st, reply) := assignAllVars "read" st (names.zip values)
      if reply.raised then (st, reply) else (st, { status := if eof then 1 else 0 })

/-! ## getopts -/

/-- An option letter in the letters of `getopts`: whether it takes an argument. -/
def optSpec? (c : UInt8) : Nat → Bytes → Option Bool
  | 0, _ => none
  | _, [] => none
  | k + 1, x :: rest =>
    let takes := rest.head? == some 0x3A
    if x == c then some takes else optSpec? c k (if takes then rest.drop 1 else rest)

/-- Where `getopts` stands: the letters of the current cluster, the argument they come from,
and the next argument (counted from 0). -/
structure OptPlace where
  letters : Bytes
  word : Nat
  next : Nat

/-- The place of the next option letter, or the index of the first operand at the end. -/
def optPlace (argv : List Bytes) (ind off : Nat) : Except Nat OptPlace :=
  let cur : Bytes := if ind ≤ 1 || off == 0 then []
    else match argv[ind - 2]? with
      | some w => if w.length < off then [] else w.drop off
      | none => []
  if !cur.isEmpty then .ok { letters := cur, word := ind - 2, next := ind - 1 }
  else
    match argv[ind - 1]? with
    | some (0x2D :: r) =>
      if r.isEmpty then .error (ind - 1)
      else if r == [0x2D] then .error ind
      else .ok { letters := r, word := ind - 1, next := ind }
    | _ => .error (ind - 1)

/-- Finish `getopts`: the index, the letter and the place in the cluster. -/
def optFinish (st : State) (var : Bytes) (next : Nat) (c : Bytes) (offset : Nat) (done : Bool) :
    State × Reply :=
  let st := match st.assign "OPTIND" (Utf8.ofString (toString (next + 1))) with
    | .ok st => st
    | .error _ => st
  let (st, reply) := assignAllVars "getopts" st [(var, c)]
  ({ st with optInd := next + 1, optOffset := offset },
    if reply.raised then reply else { reply with status := if done then 1 else 0 })

/-- Set or unset `OPTARG`. -/
def setOptArg (st : State) (v : Option Bytes) : State :=
  match v with
  | some v => (st.assign "OPTARG" v).toOption.getD st
  | none => (st.unsetVar "OPTARG").toOption.getD st

/-- **getopts**: the next option letter into the variable, its argument into `OPTARG`, the
next argument's index into `OPTIND`; status 1 at the end of the options. An unknown letter
or a missing argument is `?` with a message, or, when the letters start with `:`, `?` or `:`
silently with the letter in `OPTARG`. -/
def getoptsCmd : Builtin := fun st args =>
  match args with
  | optstr :: var :: rest =>
    let argv := if rest.isEmpty then st.params else rest
    let (ind, off) := if st.optInd > argv.length + 1 then (1, 0) else (st.optInd, st.optOffset)
    let silent := optstr.head? == some 0x3A
    match optPlace argv ind off with
    | .error next => optFinish st var next [0x3F] 0 true
    | .ok place =>
      match place.letters with
      | [] => optFinish st var place.next [0x3F] 0 true
      | c :: more =>
        let wordLen := ((argv[place.word]?).map List.length).getD 0
        let offset := if more.isEmpty then wordLen else wordLen - more.length
        match optSpec? c (optstr.length + 1) optstr with
        | none =>
          if silent then optFinish (setOptArg st (some [c])) var place.next [0x3F] offset false
          else
            let st := st.emit 2 (Utf8.ofString "Illegal option -" ++ [c, 0x0A])
            optFinish (setOptArg st none) var place.next [0x3F] offset false
        | some false => optFinish (setOptArg st (some [])) var place.next [c] offset false
        | some true =>
          if !more.isEmpty then optFinish (setOptArg st (some more)) var place.next [c] 0 false
          else
            match argv[place.next]? with
            | some a => optFinish (setOptArg st (some a)) var (place.next + 1) [c] 0 false
            | none =>
              if silent then optFinish (setOptArg st (some [c])) var place.next [0x3A] offset false
              else
                let st := st.emit 2 (Utf8.ofString "No arg for -" ++ [c] ++ Utf8.ofString " option\n")
                optFinish (setOptArg st none) var place.next [0x3F] offset false
  | _ => (st, st.raise "getopts" "Usage: getopts optstring var [arg]")

end Inventory.Shell

import Inventory.Text.Quote
/-!
# Command-line flags

A flag has a long name, perhaps a one-letter shorthand, a kind and a usage line. Boolean
flags need no value (`--verbose`, `-v`) but take one after `=` (`--verbose=false`); text flags
take the next argument or the text after `=` (`--probe x`, `--probe=x`, `-m x`, `-mx`,
`-m=x`); a list flag gathers every value it is given. Shorthands group (`-vm x`). A lone `-`
is an argument, `--` ends the flags, and flags and arguments may mix.

Usage lines are listed sorted by name, the long forms aligned, each followed by the name of
the kind of value it takes.
-/

set_option autoImplicit false

namespace Inventory.Cli

/-- What a flag holds. -/
inductive FlagKind where
  | bool
  | text
  | texts
  deriving DecidableEq, Repr

/-- A flag a command accepts. -/
structure Flag where
  name : String
  short : Option Char := none
  kind : FlagKind
  usage : String
  deriving DecidableEq, Repr

/-- The value a flag was given. -/
inductive FlagValue where
  | bool (b : Bool)
  | text (s : String)
  | texts (ss : List String)
  deriving DecidableEq, Repr

/-- Flags as parsed: the values given, in the order first given, and the other arguments. -/
structure Parsed where
  values : List (String × FlagValue) := []
  args : List String := []
  deriving Repr

namespace Parsed

/-- A boolean flag's value; false when not given. -/
def bool (p : Parsed) (name : String) : Bool :=
  match p.values.find? (·.1 == name) with
  | some (_, .bool b) => b
  | _ => false

/-- A text flag's value; empty when not given. -/
def text (p : Parsed) (name : String) : String :=
  match p.values.find? (·.1 == name) with
  | some (_, .text s) => s
  | _ => ""

/-- A list flag's values. -/
def texts (p : Parsed) (name : String) : List String :=
  match p.values.find? (·.1 == name) with
  | some (_, .texts ss) => ss
  | _ => []

/-- Whether a flag was given. -/
def given (p : Parsed) (name : String) : Bool := p.values.any (·.1 == name)

end Parsed

/-- A boolean as flag values spell it. -/
def parseBool (s : String) : Option Bool :=
  if ["1", "t", "T", "TRUE", "true", "True"].contains s then some true
  else if ["0", "f", "F", "FALSE", "false", "False"].contains s then some false
  else none

/-- How a flag is named in messages: with its shorthand when it has one. -/
def Flag.label (f : Flag) : String :=
  match f.short with
  | some c => "-" ++ c.toString ++ ", --" ++ f.name
  | none => "--" ++ f.name

/-- A flag needs no value when it is boolean. -/
def Flag.optional (f : Flag) : Bool := f.kind == .bool

/-- **Setting a flag** to a value given for it. -/
def setFlag (f : Flag) (value : String) (p : Parsed) : Except String Parsed :=
  let put (v : FlagValue) : Parsed :=
    if p.given f.name then
      { p with values := p.values.map fun (k, old) => if k == f.name then (k, v) else (k, old) }
    else { p with values := p.values ++ [(f.name, v)] }
  match f.kind with
  | .bool =>
    match parseBool value with
    | some b => .ok (put (.bool b))
    | none => .error ("invalid argument " ++ Text.quote value ++ " for " ++ Text.quote f.label ++
        " flag: strconv.ParseBool: parsing " ++ Text.quote value ++ ": invalid syntax")
  | .text => .ok (put (.text value))
  | .texts => .ok (put (.texts (p.texts f.name ++ [value])))

/-- The flag with a long name. -/
def findLong (flags : List Flag) (name : String) : Option Flag := flags.find? (·.name == name)

/-- The flag with a shorthand. -/
def findShort (flags : List Flag) (c : Char) : Option Flag := flags.find? (·.short == some c)

/-- A character between single quotes, as messages show it. -/
def quoteChar (c : Char) : String := "'" ++ c.toString ++ "'"

/-- **A long flag** `--name`, `--name=value` or `--name value`: the arguments left. -/
def longFlag (flags : List Flag) (s : String) (rest : List String) (p : Parsed) :
    Except String (List String × Parsed) :=
  let body := (s.drop 2).toString
  if body.isEmpty || body.startsWith "-" || body.startsWith "=" then .error ("bad flag syntax: " ++ s)
  else
    let (name, value?) := match body.splitOn "=" with
      | n :: v :: more => (n, some ("=".intercalate (v :: more)))
      | _ => (body, none)
    match findLong flags name with
    | none => .error ("unknown flag: --" ++ name)
    | some f =>
      match value?, rest with
      | some v, _ => do pure (rest, ← setFlag f v p)
      | none, _ =>
        if f.optional then do pure (rest, ← setFlag f "true" p)
        else match rest with
          | v :: more => do pure (more, ← setFlag f v p)
          | [] => .error ("flag needs an argument: " ++ s)

/-- **A group of shorthands** after one dash: each a flag, the first that takes a value
taking the rest of the group or the next argument. -/
def shortFlags (flags : List Flag) (group : String) : List Char → List String → Parsed →
    Except String (List String × Parsed)
  | [], rest, p => .ok (rest, p)
  | c :: more, rest, p =>
    if (String.ofList (c :: more)).startsWith "test." then .ok (rest, p)
    else
      match findShort flags c with
      | none => .error ("unknown shorthand flag: " ++ quoteChar c ++ " in -" ++ group)
      | some f =>
        match more with
        | '=' :: v@(_ :: _) => do pure (rest, ← setFlag f (String.ofList v) p)
        | _ =>
          if f.optional then do shortFlags flags group more rest (← setFlag f "true" p)
          else if !more.isEmpty then do pure (rest, ← setFlag f (String.ofList more) p)
          else match rest with
            | v :: others => do pure (others, ← setFlag f v p)
            | [] => .error ("flag needs an argument: " ++ quoteChar c ++ " in -" ++ group)

/-- **Parsing arguments** against the flags a command accepts. -/
def parseFlags (flags : List Flag) : Nat → List String → Parsed → Except String Parsed
  | 0, _, p => .ok p
  | _, [], p => .ok p
  | fuel + 1, s :: rest, p =>
    if s.length < 2 || !s.startsWith "-" then parseFlags flags fuel rest { p with args := p.args ++ [s] }
    else if s == "--" then .ok { p with args := p.args ++ rest }
    else if s.startsWith "--" then do
      let (rest, p) ← longFlag flags s rest p
      parseFlags flags fuel rest p
    else do
      let group := (s.drop 1).toString
      let (rest, p) ← shortFlags flags group group.toList rest p
      parseFlags flags fuel rest p

/-- Parse all arguments. -/
def parseAll (flags : List Flag) (args : List String) : Except String Parsed :=
  parseFlags flags (args.length + 1) args {}

/-! ## Usage -/

/-- The name of the kind of value a flag takes, as usage lines show it. -/
def FlagKind.valueName : FlagKind → String
  | .bool => ""
  | .text => "string"
  | .texts => "stringArray"

/-- The left part of a flag's usage line. -/
def Flag.usageHead (f : Flag) : String :=
  (match f.short with
    | some c => "  -" ++ c.toString ++ ", --" ++ f.name
    | none => "      --" ++ f.name) ++
  (if f.kind.valueName.isEmpty then "" else " " ++ f.kind.valueName)

/-- Flags sorted by name. -/
def sortFlags (flags : List Flag) : List Flag :=
  (flags.toArray.qsort fun a b => a.name < b.name).toList

/-- **The usage lines** of flags, sorted, their texts aligned two columns after the longest
left part. -/
def flagUsages (flags : List Flag) : String :=
  let sorted := sortFlags flags
  let width := (sorted.map fun f => f.usageHead.length).foldl max 0
  String.join (sorted.map fun f =>
    f.usageHead ++ String.ofList (List.replicate (width - f.usageHead.length + 3) ' ') ++ f.usage ++ "\n")

end Inventory.Cli

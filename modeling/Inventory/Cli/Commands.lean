import Inventory.Cli.Flags
/-!
# The command tree

The program is one command, `system_info`, with subcommands `send` and `validate`, the
`help` command, and `completion` with one subcommand per shell. A command's flags are its own,
`--help`, and the persistent flags of the commands above it: the root's persistent flags reach
every subcommand, while `--out` belongs to the root alone.

**Finding the command** walks the arguments that are not flags or flag values, descending while
one names a subcommand; a flag not known to take no value is taken to be followed by its value.
The arguments left, with the name that led to each subcommand removed, go to the command found.

**Help** shows a command's long description, its usage lines, its subcommands with their short
descriptions, its own flags and the flags it inherits.
-/

set_option autoImplicit false

namespace Inventory.Cli

/-- A command of the program. -/
inductive Command where
  | root
  | send
  | validate
  | help
  | completion
  | shell (name : String)
  deriving DecidableEq, Repr

/-- The shells completion scripts are made for, in listing order. -/
def shells : List String := ["bash", "fish", "powershell", "zsh"]

/-- The name of the program. -/
def programName : String := "system_info"

namespace Command

/-- The command's name. -/
def name : Command → String
  | .root => programName
  | .send => "send"
  | .validate => "validate"
  | .help => "help"
  | .completion => "completion"
  | .shell s => s

/-- The command above. -/
def parent : Command → Option Command
  | .root => none
  | .shell _ => some .completion
  | _ => some .root

/-- The commands below, sorted by name. -/
def children : Command → List Command
  | .root => [.completion, .help, .send, .validate]
  | .completion => shells.map .shell
  | _ => []

/-- The full name: the names from the root down. -/
def path : Command → String
  | .shell s => programName ++ " completion " ++ s
  | .root => programName
  | c => programName ++ " " ++ c.name

/-- How the command is used, as its usage line begins. -/
def use : Command → String
  | .help => "help [command]"
  | c => c.name

/-- The one-line description. -/
def short : Command → String
  | .root => "Report hardware inventory as JSON"
  | .send => "Collect system info and upload it to the server"
  | .validate => "Validate a system info JSON file against a JSON Schema"
  | .help => "Help about any command"
  | .completion => "Generate the autocompletion script for the specified shell"
  | .shell s => "Generate the autocompletion script for " ++ s

/-- The long description. -/
def long : Command → String
  | .root =>
    "Runs the hardware probe (lshw -json by default), embeds the image manifest\n" ++
    "as \"manifest_file\" when it is readable, and prints the merged document as\n" ++
    "indented JSON on stdout.\n\nRun without arguments to print the document."
  | .send =>
    "Collects the same document the root command prints and PUTs it to --url, " ++
    "authenticating with --token and tagging it with --device-id."
  | .validate =>
    "Validates a previously written system info document. Uses --schema, or " ++
    "schemas/system_info.schema.json when it can be found."
  | .help =>
    "Help provides help for any command in the application.\n" ++
    "Simply type " ++ programName ++ " help [path to command] for full details."
  | .completion =>
    "Generate the autocompletion script for " ++ programName ++ " for the specified shell.\n" ++
    "See each sub-command's help for details on how to use the generated script.\n"
  | .shell s => "Generate the autocompletion script for the " ++ s ++ " shell."

/-- Whether the command does something itself, rather than only group others. -/
def runnable : Command → Bool
  | .completion => false
  | _ => true

/-- The flags the command defines and passes on to the commands below. -/
def persistentFlags : Command → List Flag
  | .root =>
    [ ⟨"config", none, .text, "Path to JSON config file"⟩,
      ⟨"verbose", some 'v', .bool, "Debug logging and a summary on stderr"⟩,
      ⟨"probe", none, .text, "Probe executable (default \"lshw\")"⟩,
      ⟨"probe-arg", none, .texts, "Argument passed to the probe, repeatable (default [-json] with lshw)"⟩,
      ⟨"manifest", some 'm', .text, "Manifest file embedded as manifest_file (default \"/etc/manifest.xml\")"⟩,
      ⟨"no-manifest", none, .bool, "Do not embed a manifest"⟩,
      ⟨"timeout", none, .text, "Probe timeout, e.g. 30s (default none)"⟩,
      ⟨"schema", none, .text, "JSON Schema the document must satisfy"⟩ ]
  | _ => []

/-- The flag that asks for help. -/
def helpFlag (c : Command) : Flag := ⟨"help", some 'h', .bool, "help for " ++ c.name⟩

/-- The flags the command defines for itself alone, `--help` included. -/
def localFlags (c : Command) : List Flag :=
  c.helpFlag :: match c with
    | .root => [⟨"out", some 'o', .text, "Write the document to a file instead of stdout"⟩]
    | .send =>
      [ ⟨"url", none, .text, "Endpoint the document is PUT to (or SYSTEM_INFO_URL)"⟩,
        ⟨"token", none, .text, "Bearer token (or SYSTEM_INFO_TOKEN)"⟩,
        ⟨"device-id", none, .text, "Device UUID (or SYSTEM_INFO_DEVICE_ID)"⟩ ]
    | .validate => [⟨"json", some 'j', .text, "Path to JSON file to validate (required)"⟩]
    | .shell _ => [⟨"no-descriptions", none, .bool, "disable completion descriptions"⟩]
    | _ => []

/-- The persistent flags of the commands above. -/
def inherited : Command → List Flag
  | .root => []
  | .shell _ => root.persistentFlags
  | _ => root.persistentFlags

/-- Every flag the command accepts. -/
def flags (c : Command) : List Flag := c.localFlags ++ c.persistentFlags ++ c.inherited

/-- Flags that must be given. -/
def required : Command → List String
  | .validate => ["json"]
  | _ => []

end Command

/-! ## Finding the command -/

/-- An argument that is a flag followed by its value: a long flag without `=` not known to be
boolean, or a one-letter shorthand not known to be boolean. -/
def takesNext (flags : List Flag) (s : String) : Bool :=
  if s.contains '=' then false
  else if s.startsWith "--" then
    !((findLong flags (s.drop 2).toString).any Flag.optional)
  else if s.startsWith "-" && s.utf8ByteSize == 2 then
    !(((s.drop 1).toString.toList.head?.bind (findShort flags)).any Flag.optional)
  else false

/-- The arguments that are neither flags nor flag values. -/
def plainArgs (flags : List Flag) : List String → List String
  | [] => []
  | s :: rest =>
    if s == "--" then []
    else if takesNext flags s then
      match rest with
      | _ :: more@(_ :: _) => plainArgs flags more
      | _ => []
    else if !s.isEmpty && !s.startsWith "-" then s :: plainArgs flags rest
    else plainArgs flags rest
termination_by args => args.length

/-- The arguments without the first plain one equal to `x`. -/
def withoutName (flags : List Flag) (x : String) : List String → List String
  | [] => []
  | s :: rest =>
    if s == "--" then s :: rest
    else if takesNext flags s then
      match rest with
      | v :: more => s :: v :: withoutName flags x more
      | [] => [s]
    else if !s.startsWith "-" && s == x then rest
    else s :: withoutName flags x rest
termination_by args => args.length

/-- The subcommand a name calls for. -/
def Command.child? (c : Command) (n : String) : Option Command := c.children.find? (·.name == n)

/-- **Finding the command** the arguments call for, and the arguments it gets. -/
def find (c : Command) (args : List String) : Nat → Command × List String
  | 0 => (c, args)
  | fuel + 1 =>
    match plainArgs c.flags args with
    | [] => (c, args)
    | next :: _ =>
      match c.child? next with
      | some sub => find sub (withoutName c.flags next args) fuel
      | none => (c, args)

/-! ## Help -/

/-- Text without trailing blanks and line ends. -/
def trimEnd (s : String) : String :=
  String.ofList (s.toList.reverse.dropWhile (fun c => c == ' ' || c == '\n' || c == '\t' || c == '\r')).reverse

/-- A name padded to a width. -/
def padTo (s : String) (w : Nat) : String := s ++ String.ofList (List.replicate (w - s.length) ' ')

/-- The width subcommand names are padded to: the widest, and at least eleven. -/
def nameWidth (c : Command) : Nat := (c.children.map fun k => k.name.length).foldl max 11

/-- **The usage text** of a command. -/
def usage (c : Command) : String :=
  let hasSubs := !c.children.isEmpty
  let useLine := (match c.parent with
    | some p => p.path ++ " " ++ c.use
    | none => c.use) ++ (match c with
    | .shell _ => ""
    | _ => " [flags]")
  "Usage:" ++
  (if c.runnable then "\n  " ++ useLine else "") ++
  (if hasSubs then "\n  " ++ c.path ++ " [command]" else "") ++
  (if hasSubs then
    "\n\nAvailable Commands:" ++ String.join (c.children.map fun k =>
      "\n  " ++ padTo k.name (nameWidth c) ++ " " ++ k.short)
   else "") ++
  "\n\nFlags:\n" ++ trimEnd (flagUsages (c.localFlags ++ c.persistentFlags)) ++
  (if c.inherited.isEmpty then "" else "\n\nGlobal Flags:\n" ++ trimEnd (flagUsages c.inherited)) ++
  (if hasSubs then "\n\nUse \"" ++ c.path ++ " [command] --help\" for more information about a command." else "") ++
  "\n"

/-- **The help text** of a command: its description, then its usage. -/
def helpText (c : Command) : String :=
  let about := trimEnd c.long
  (if about.isEmpty then "" else about ++ "\n\n") ++ usage c

end Inventory.Cli

import Inventory.Text.Utf8
/-!
# Shell scripts: the syntax tree

The command language of the system shell. A script is read one line at a time into
commands, and each command is run before the next line is read.

A word is a list of parts: text written plainly, text protected by single quotes or a
backslash, a double-quoted stretch, a parameter expansion (`$name`, `${name}`, `${name op
word}`), a command substitution (`$(list)` or a backquoted list) and an arithmetic expansion
(`$((expression))`). A word keeps its parts apart because each is treated differently when it
is expanded: quoted text is never split into fields nor read as a pattern, and what plain
expansions give is split at the field separators.

Commands are simple commands (assignments, words and redirections, with the line they start
on), pipelines, negations, and-or lists, sequences, background jobs, subshells, brace groups,
conditionals, loops, `case`, and function definitions.
-/

set_option autoImplicit false

namespace Inventory.Shell

/-- How a file named by a redirection is opened. -/
inductive OpenMode where
  /-- `<`: read. -/
  | read
  /-- `>`: create or truncate, refusing an existing file under `noclobber`. -/
  | write
  /-- `>|`: create or truncate. -/
  | clobber
  /-- `>>`: create or append. -/
  | append
  /-- `<>`: read and write, creating the file. -/
  | readWrite
  deriving DecidableEq, Repr

/-- A descriptor is made an output (`>&`) or an input (`<&`) copy. -/
def OpenMode.isOutput : OpenMode → Bool
  | .read => false
  | .readWrite => false
  | _ => true

mutual

/-- A part of a word as written. -/
inductive Part where
  /-- Text written without quotes; inside double quotes or a here-document, quoted text. -/
  | lit (bs : Bytes)
  /-- Text protected by single quotes or a backslash. -/
  | quote (bs : Bytes)
  /-- A double-quoted stretch. -/
  | dquote (parts : List Part)
  /-- A parameter expansion: the parameter's name and what is done with its value. -/
  | param (name : String) (op : Expansion)
  /-- A command substitution. -/
  | subst (body : Cmd)
  /-- An arithmetic expansion. -/
  | arith (parts : List Part)

/-- What a parameter expansion does with the value. -/
inductive Expansion where
  /-- `$name`, `${name}`: the value. -/
  | plain
  /-- `${#name}`: the length of the value. -/
  | length
  /-- An expansion the shell cannot perform; it fails when it is reached. -/
  | bad
  /-- `${name-word}`, `${name:-word}`: the word when the parameter is unset (or empty). -/
  | useDefault (colon : Bool) (word : List Part)
  /-- `${name=word}`, `${name:=word}`: as above, also assigning the word. -/
  | assignDefault (colon : Bool) (word : List Part)
  /-- `${name?word}`, `${name:?word}`: an error when the parameter is unset (or empty). -/
  | errorIfUnset (colon : Bool) (word : List Part)
  /-- `${name+word}`, `${name:+word}`: the word when the parameter is set (and not empty). -/
  | useAlternative (colon : Bool) (word : List Part)
  /-- `${name#pattern}`, `${name##pattern}`: the value without its shortest (longest) prefix
  that matches. -/
  | removePrefix (longest : Bool) (pattern : List Part)
  /-- `${name%pattern}`, `${name%%pattern}`: the value without its shortest (longest) suffix
  that matches. -/
  | removeSuffix (longest : Bool) (pattern : List Part)

/-- A redirection. -/
inductive Redir where
  /-- Open a file on a descriptor. -/
  | file (fd : Nat) (mode : OpenMode) (target : List Part)
  /-- Make a descriptor a copy of another one, fixed when the script was read. -/
  | copy (fd : Nat) (output : Bool) (source : Nat)
  /-- Close a descriptor (`>&-`). -/
  | close (fd : Nat) (output : Bool)
  /-- Make a descriptor a copy of the one a word names when it is expanded. -/
  | copyWord (fd : Nat) (output : Bool) (source : List Part)
  /-- A here-document: its body, expanded when its delimiter was not quoted. -/
  | here (fd : Nat) (expand : Bool) (body : List Part)
  /-- A here-document whose body has not been read yet: its place in the line. -/
  | pending (fd : Nat) (slot : Nat)

/-- A command. -/
inductive Cmd where
  /-- No command at all: an empty list. -/
  | nothing
  /-- A simple command: assignments, words and redirections, and the line it is on. -/
  | simple (line : Nat) (assigns : List (List Part)) (words : List (List Part))
      (redirs : List Redir)
  /-- `! pipeline`. -/
  | not (body : Cmd)
  /-- A pipeline of at least two commands. -/
  | pipe (stages : List Cmd)
  /-- `first && second`. -/
  | andThen (first second : Cmd)
  /-- `first || second`. -/
  | orElse (first second : Cmd)
  /-- `first; second`. -/
  | seq (first second : Cmd)
  /-- `body &`. -/
  | background (body : Cmd)
  /-- `( list )` with its redirections. -/
  | subshell (line : Nat) (body : Cmd) (redirs : List Redir)
  /-- A compound command with redirections. -/
  | redirected (line : Nat) (body : Cmd) (redirs : List Redir)
  /-- `if test; then body; else other; fi`; `elif` nests. -/
  | ifThen (test body : Cmd) (other : Option Cmd)
  /-- `while test; do body; done`, or `until` when `negated`. -/
  | loop (negated : Bool) (test body : Cmd)
  /-- `for name in words; do body; done`; without `in`, the positional parameters. -/
  | forEach (line : Nat) (name : String) (items : Option (List (List Part))) (body : Cmd)
  /-- `case word in patterns) list;; esac`. -/
  | caseOf (line : Nat) (subject : List Part) (arms : List CaseArm)
  /-- `name() command`. -/
  | function (line : Nat) (name : String) (body : Cmd)

/-- One arm of a `case`: its patterns and its list. -/
inductive CaseArm where
  | arm (patterns : List (List Part)) (body : Cmd)

end

/-- A word: its parts. -/
abbrev Word := List Part

instance : Inhabited Cmd := ⟨.nothing⟩

/-- Why a script could not be read: the line the reader was on, and what it found. -/
structure SyntaxError where
  line : Nat
  message : String
  deriving DecidableEq, Repr

/-! ## Names -/

/-- A byte that may start a name. -/
def isNameStart (c : UInt8) : Bool :=
  (0x41 ≤ c && c ≤ 0x5A) || (0x61 ≤ c && c ≤ 0x7A) || c == 0x5F

/-- A byte that may continue a name. -/
def isNameByte (c : UInt8) : Bool := isNameStart c || (0x30 ≤ c && c ≤ 0x39)

/-- A decimal digit byte. -/
def isDigitByte (c : UInt8) : Bool := 0x30 ≤ c && c ≤ 0x39

/-- A name: a letter or underscore, then letters, digits and underscores. -/
def isName (bs : Bytes) : Bool :=
  match bs with
  | c :: rest => isNameStart c && rest.all isNameByte
  | [] => false

/-- The bytes as text, for names made of ASCII. -/
def ascii (bs : Bytes) : String := String.ofList (bs.map fun b => Char.ofNat b.toNat)

/-- The words reserved by the grammar, recognized where a command may start. -/
def keywords : List String :=
  ["!", "case", "do", "done", "elif", "else", "esac", "fi", "for", "if", "in", "then", "until",
    "while", "\x7b", "\x7d"]

/-- The special built-in commands: errors in them end a script, and no function may take
their names. -/
def specialBuiltins : List String :=
  [".", ":", "break", "continue", "eval", "exec", "exit", "export", "readonly", "return", "set",
    "shift", "times", "trap", "unset"]

end Inventory.Shell

import Inventory.Shell.Syntax
import Inventory.Host.Files
import Inventory.Number.Reading
import Inventory.Shell.Pattern
/-!
# The `test` command

`test expression` and `[ expression ]` evaluate a condition on strings, integers and files:
true gives status 0, false 1, an error 2 with a message.

* With three arguments whose middle one is a binary operator, it is that comparison; with
  three or four arguments, a leading `!` negates the rest and an outer pair of parentheses is
  dropped. Otherwise the arguments are read as an expression: `-o` over `-a` over `!` over
  primaries, which are parenthesized expressions, unary tests (`-n`, `-z`, `-e`, `-f`, `-d`,
  ...), binary comparisons (`=`, `!=`, `<`, `>`, `-eq`, `-ne`, `-lt`, `-le`, `-gt`, `-ge`,
  `-nt`, `-ot`, `-ef`), or a single string, true when it is not empty.
* A unary operator is a string when it is the last argument, or when the argument after the
  next is there and the next one is a binary operator.
* Errors: `missing ]`, `argument expected`, `closing paren expected`, `unexpected operator`,
  and `Illegal number` for an integer operand that is not one.

Files are tested as the superuser sees them: every existing file is readable and writable,
and executable when it has an execute permission or is a directory.
-/

set_option autoImplicit false

namespace Inventory.Shell

open Number

/-- The kinds of operators of `test`. -/
inductive TestKind where
  | unary
  | binary
  | not
  | andOp
  | orOp
  | lparen
  | rparen
  deriving DecidableEq, Repr

/-- The operator an argument names, if any. -/
def testOp? (s : Bytes) : Option TestKind :=
  match ascii s with
  | "-r" | "-w" | "-x" | "-e" | "-f" | "-d" | "-c" | "-b" | "-p" | "-u" | "-g" | "-k" | "-s"
  | "-t" | "-z" | "-n" | "-h" | "-O" | "-G" | "-L" | "-S" => some .unary
  | "=" | "!=" | "<" | ">" | "-eq" | "-ne" | "-ge" | "-gt" | "-le" | "-lt" | "-nt" | "-ot"
  | "-ef" => some .binary
  | "!" => some .not
  | "-a" => some .andOp
  | "-o" => some .orOp
  | "(" => some .lparen
  | ")" => some .rparen
  | _ => none

/-- What the evaluation reads: the arguments and the place of the current one. -/
structure TestInput where
  args : Array Bytes
  pos : Nat

/-- The argument at a place. -/
def TestInput.at? (t : TestInput) (i : Nat) : Option Bytes := t.args[i]?

/-- A token of `test`: an operator kind, an operand, or the end. -/
inductive TestToken where
  | op (k : TestKind)
  | operand
  | finished
  deriving DecidableEq, Repr

/-- Whether a unary operator at a place is read as an operand. -/
def TestInput.isOperand (t : TestInput) (i : Nat) : Bool :=
  match t.at? (i + 1) with
  | none => true
  | some next =>
    if (t.at? (i + 2)).isNone then false
    else testOp? next == some .binary

/-- **The token at a place.** -/
def TestInput.lex (t : TestInput) (i : Nat) : TestToken :=
  match t.at? i with
  | none => .finished
  | some s =>
    match testOp? s with
    | some .unary => if t.isOperand i then .operand else .op .unary
    | some .lparen => if (t.at? (i + 1)).isNone then .operand else .op .lparen
    | some k => .op k
    | none => .operand

/-- An error of `test`, named by an argument when there is one. -/
def testError {α : Type} (arg : Option Bytes) (msg : String) : Except String α :=
  match arg with
  | some a => if a.isEmpty then .error msg else .error (Utf8.decode a ++ ": " ++ msg)
  | none => .error msg

/-- **An integer operand**: decimal, with optional space and sign, in the 64-bit range. -/
def testNumber (s : Bytes) : Except String Int :=
  let rd := readSigned 10 s
  if rd.used == 0 || rd.outOfRange || !(s.drop rd.used).all isSpace then
    .error ("Illegal number: " ++ Utf8.decode s)
  else .ok rd.value

/-- Whether a node can be executed by the superuser. -/
def Node.executable : Node → Bool
  | .dir => true
  | .file _ x => x
  | .program _ => true
  | .device _ => false

/-- **A unary test on a string or file.** -/
def unaryTest (fs : Files) (cwd : String) (op : String) (arg : Bytes) : Except String Bool :=
  let node := (fs.lookup cwd (Utf8.decode arg)).toOption
  let present := node.isSome
  match op with
  | "-z" => .ok arg.isEmpty
  | "-n" => .ok !arg.isEmpty
  | "-t" => do let _ ← testNumber arg; .ok false
  | "-e" | "-r" | "-w" | "-O" | "-G" => .ok present
  | "-x" => .ok ((node.map Node.executable).getD false)
  | "-f" => .ok (match node with
    | some (.file _ _) | some (.program _) => true
    | _ => false)
  | "-d" => .ok (match node with
    | some .dir => true
    | _ => false)
  | "-c" => .ok (match node with
    | some (.device .null) | some (.device .full) => true
    | _ => false)
  | "-s" => .ok (match node with
    | some (.file c _) => !c.isEmpty
    | some .dir | some (.program _) => true
    | _ => false)
  | _ => .ok false

/-- **A binary comparison.** -/
def binaryTest (fs : Files) (cwd : String) (op : String) (a b : Bytes) : Except String Bool :=
  let present (p : Bytes) := (fs.lookup cwd (Utf8.decode p)).toBool
  match op with
  | "=" => .ok (a == b)
  | "!=" => .ok (a != b)
  | "<" => .ok (a != b && bytesLe a b)
  | ">" => .ok (a != b && bytesLe b a)
  | "-nt" => .ok (present a && !present b)
  | "-ot" => .ok (!present a && present b)
  | "-ef" =>
    .ok (match fs.locate cwd (Utf8.decode a), fs.locate cwd (Utf8.decode b) with
      | .ok x, .ok y => x == y
      | _, _ => false)
  | _ => do
    let x ← testNumber a
    let y ← testNumber b
    .ok (match op with
      | "-eq" => x == y
      | "-ne" => x != y
      | "-ge" => x ≥ y
      | "-gt" => x > y
      | "-le" => x ≤ y
      | _ => x < y)

mutual

/-- `-o`: the place after the expression and its truth. -/
def orTest (fs : Files) (cwd : String) (t : TestInput) : Nat → TestToken → Nat → Except String (Nat × Bool)
  | 0, _, _ => .error "expression too deep"
  | k + 1, tok, i => do
    let (i, a) ← andTest fs cwd t k tok i
    match t.lex (i + 1) with
    | .op .orOp =>
      let (j, b) ← orTest fs cwd t k (t.lex (i + 2)) (i + 2)
      .ok (j, a || b)
    | _ => .ok (i, a)

/-- `-a`. -/
def andTest (fs : Files) (cwd : String) (t : TestInput) : Nat → TestToken → Nat → Except String (Nat × Bool)
  | 0, _, _ => .error "expression too deep"
  | k + 1, tok, i => do
    let (i, a) ← notTest fs cwd t k tok i
    match t.lex (i + 1) with
    | .op .andOp =>
      let (j, b) ← andTest fs cwd t k (t.lex (i + 2)) (i + 2)
      .ok (j, a && b)
    | _ => .ok (i, a)

/-- `!`. -/
def notTest (fs : Files) (cwd : String) (t : TestInput) : Nat → TestToken → Nat → Except String (Nat × Bool)
  | 0, _, _ => .error "expression too deep"
  | k + 1, tok, i =>
    match tok with
    | .op .not => do
      let (j, v) ← notTest fs cwd t k (t.lex (i + 1)) (i + 1)
      .ok (j, !v)
    | _ => primaryTest fs cwd t k tok i

/-- A primary. -/
def primaryTest (fs : Files) (cwd : String) (t : TestInput) : Nat → TestToken → Nat → Except String (Nat × Bool)
  | 0, _, _ => .error "expression too deep"
  | k + 1, tok, i =>
    match tok with
    | .finished => testError none "argument expected"
    | .op .lparen => do
      let (j, v) ← orTest fs cwd t k (t.lex (i + 1)) (i + 1)
      match t.lex (j + 1) with
      | .op .rparen => .ok (j + 1, v)
      | _ => testError none "closing paren expected"
    | .op .unary =>
      let op := (t.at? i).getD []
      match t.at? (i + 1) with
      | none => testError (some op) "argument expected"
      | some arg => do
        let v ← unaryTest fs cwd (ascii op) arg
        .ok (i + 1, v)
    | _ =>
      let a := (t.at? i).getD []
      match t.lex (i + 1) with
      | .op .binary =>
        let op := (t.at? (i + 1)).getD []
        match t.at? (i + 2) with
        | none => testError (some op) "argument expected"
        | some b => do
          let v ← binaryTest fs cwd (ascii op) a b
          .ok (i + 2, v)
      | _ => .ok (i, !a.isEmpty)

end

/-- Evaluate from the first argument, then check that nothing is left over. -/
def testExpression (fs : Files) (cwd : String) (args : List Bytes) (first : TestToken) :
    Except String Bool := do
  let t : TestInput := { args := args.toArray, pos := 0 }
  let (i, v) ← orTest fs cwd t (4 * args.length + 4) first 0
  if (t.at? i).isSome && (t.at? (i + 1)).isSome then testError (t.at? i) "unexpected operator"
  else .ok v

/-- The arguments after the special cases of three and four arguments: the arguments, whether
the result is negated, and a first token forced to be an operand. -/
def testShape : Nat → List Bytes → Bool → List Bytes × Bool × Bool
  | 0, args, neg => (args, neg, false)
  | k + 1, args, neg =>
    let n := args.length
    if n == 3 && (args[1]?.bind testOp?) == some .binary then (args, neg, true)
    else if n == 3 || n == 4 then
      if args.head? == some [0x28] && args.getLast? == some [0x29] then
        ((args.drop 1).dropLast, neg, false)
      else if args.head? == some [0x21] then testShape k (args.drop 1) (!neg)
      else (args, neg, false)
    else (args, neg, false)

/-- **Running `test`** (or `[` when `bracket`) on its arguments: the truth, or an error. -/
def runTest (fs : Files) (cwd : String) (bracket : Bool) (args : List Bytes) :
    Except String Bool := do
  let args ← if bracket then
      if args.getLast? == some [0x5D] then .ok args.dropLast else .error "missing ]"
    else .ok args
  if args.isEmpty then return false
  let (args, neg, forced) := testShape 2 args false
  if args.isEmpty then return neg
  let t : TestInput := { args := args.toArray, pos := 0 }
  let first := if forced then .operand else t.lex 0
  let v ← testExpression fs cwd args first
  .ok (if neg then !v else v)

end Inventory.Shell

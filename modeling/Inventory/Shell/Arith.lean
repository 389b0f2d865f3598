import Inventory.Shell.Syntax
import Inventory.Number.Reading
/-!
# Shell arithmetic

The expression of `$(( ))`, evaluated over signed 64-bit integers that wrap around.

* **Operands** are numbers as the C library reads them (`0x` hexadecimal, a leading `0` octal,
  a value beyond the range reads as the nearest bound) and variable names, whose values are
  read the same way in full: an unset or empty variable is zero, anything else that is not a
  number is an `Illegal number`.
* **Operators**, from tightest to loosest: the unary `+ - ! ~`, then `* / %`, `+ -`, `<< >>`
  (the shift count taken modulo 64), `< <= > >=`, `== !=`, `&`, `^`, `|`, `&&`, `||`, the
  conditional `?:`, and the assignments `= *= /= %= += -= <<= >>= &= ^= |=`, which only a
  variable name may stand before. `&&`, `||` and `?:` do not evaluate the side they skip.
* **Errors** name what was expected where the expression went wrong: `expecting primary`,
  `expecting ')'`, `expecting ':'`, `expecting EOF`, and `division by zero`.
-/

set_option autoImplicit false

namespace Inventory.Shell

open Number

/-- A binary operator of arithmetic. -/
inductive BinOp where
  | mul | div | rem | add | sub | shl | shr | lt | le | gt | ge | eq | ne | band | bxor | bor
  deriving DecidableEq, Repr

/-- How tightly an operator binds: smaller binds tighter. -/
def BinOp.rank : BinOp → Nat
  | .mul | .div | .rem => 0
  | .add | .sub => 1
  | .shl | .shr => 2
  | .lt | .le | .gt | .ge => 3
  | .eq | .ne => 4
  | .band => 5
  | .bxor => 6
  | .bor => 7

/-- Why an arithmetic expression failed. -/
inductive ArithError where
  /-- The expression is malformed: what was expected. -/
  | malformed (expected : String)
  | divisionByZero
  /-- A variable's value is not a number. -/
  | illegalNumber (value : Bytes)
  deriving DecidableEq, Repr

/-- The message of an arithmetic error in an expression. -/
def ArithError.message (e : ArithError) (expr : Bytes) : String :=
  match e with
  | ArithError.malformed what => "arithmetic expression: " ++ what ++ ": \"" ++ Utf8.decode expr ++ "\""
  | .divisionByZero => "arithmetic expression: division by zero: \"" ++ Utf8.decode expr ++ "\""
  | .illegalNumber v => "Illegal number: " ++ Utf8.decode v

/-- A token of an arithmetic expression. -/
inductive ArithToken where
  | num (v : Int64)
  | var (name : String)
  | bin (op : BinOp)
  /-- `=` alone, or an operator followed by `=`. -/
  | assign (op : Option BinOp)
  | lparen | rparen | not | bnot | qmark | colon | and | or
  /-- A character that belongs to no token. -/
  | bad
  | eof
  deriving Repr

/-- A 64-bit value from an integer, wrapping around. -/
def toWord (v : Int) : Int64 := Int64.ofInt v

/-- A binary operator, possibly followed by `=`: the token and its length. -/
def withAssign (op : BinOp) (len : Nat) (rest : Bytes) : ArithToken × Nat :=
  match rest with
  | 0x3D :: _ => (.assign (some op), len + 1)
  | _ => (.bin op, len)

/-- **The next token** of an expression and the text after it. -/
def ArithToken.next (s : Bytes) : ArithToken × Bytes :=
  let s := s.dropWhile fun c => c == 0x20 || c == 0x09 || c == 0x0A
  match s with
  | [] => (.eof, [])
  | c :: rest =>
    if isDigitByte c then
      let rd := readSigned 0 s
      (.num (toWord rd.value), s.drop (max rd.used 1))
    else if isNameStart c then
      let name := s.takeWhile isNameByte
      (.var (ascii name), s.drop name.length)
    else
      let (t, len) : ArithToken × Nat := match c, rest with
        | 0x3D, 0x3D :: _ => (.bin .eq, 2)
        | 0x3D, _ => (.assign none, 1)
        | 0x3E, 0x3D :: _ => (.bin .ge, 2)
        | 0x3E, 0x3E :: more => withAssign .shr 2 more
        | 0x3E, _ => (.bin .gt, 1)
        | 0x3C, 0x3D :: _ => (.bin .le, 2)
        | 0x3C, 0x3C :: more => withAssign .shl 2 more
        | 0x3C, _ => (.bin .lt, 1)
        | 0x7C, 0x7C :: _ => (.or, 2)
        | 0x7C, _ => withAssign .bor 1 rest
        | 0x26, 0x26 :: _ => (.and, 2)
        | 0x26, _ => withAssign .band 1 rest
        | 0x21, 0x3D :: _ => (.bin .ne, 2)
        | 0x21, _ => (.not, 1)
        | 0x28, _ => (.lparen, 1)
        | 0x29, _ => (.rparen, 1)
        | 0x2A, _ => withAssign .mul 1 rest
        | 0x2F, _ => withAssign .div 1 rest
        | 0x25, _ => withAssign .rem 1 rest
        | 0x2B, _ => withAssign .add 1 rest
        | 0x2D, _ => withAssign .sub 1 rest
        | 0x7E, _ => (.bnot, 1)
        | 0x5E, _ => withAssign .bxor 1 rest
        | 0x3F, _ => (.qmark, 1)
        | 0x3A, _ => (.colon, 1)
        | _, _ => (.bad, 0)
      (t, s.drop len)

/-- The binary operator a token stands for, if any. -/
def ArithToken.binOp? : ArithToken → Option BinOp
  | .bin op => some op
  | _ => none

/-- **Applying a binary operator**; division and remainder by zero fail. -/
def BinOp.apply (op : BinOp) (a b : Int64) : Except ArithError Int64 :=
  let truth (p : Bool) : Int64 := if p then 1 else 0
  match op with
  | .div => if b == 0 then .error .divisionByZero else .ok (a / b)
  | .rem => if b == 0 then .error .divisionByZero else .ok (a % b)
  | .mul => .ok (a * b)
  | .add => .ok (a + b)
  | .sub => .ok (a - b)
  | .shl => .ok (a <<< b)
  | .shr => .ok (a >>> b)
  | .lt => .ok (truth (a < b))
  | .le => .ok (truth (a ≤ b))
  | .gt => .ok (truth (a > b))
  | .ge => .ok (truth (a ≥ b))
  | .eq => .ok (truth (a == b))
  | .ne => .ok (truth (a != b))
  | .band => .ok (a &&& b)
  | .bxor => .ok (a ^^^ b)
  | .bor => .ok (a ||| b)

/-- **A variable's value as a number**: all of it must be a number, up to trailing space; an
empty value is zero. -/
def numberValue (v : Bytes) : Except ArithError Int64 :=
  let rd := readSigned 0 v
  if rd.outOfRange then .error (.illegalNumber v)
  else if (v.drop rd.used).all isSpace then .ok (toWord rd.value)
  else .error (.illegalNumber v)

/-- The state of an evaluation: the text after the last token, the last token, the
assignments made (newest first), and how variables are looked up. -/
structure ArithState where
  rest : Bytes
  last : ArithToken := .eof
  assigned : List (String × Int64) := []

/-- A step of evaluation. -/
abbrev ArithM (α : Type) := StateT ArithState (Except ArithError) α

/-- Read the next token. -/
def lexNext : ArithM ArithToken := do
  let st ← get
  let (t, rest) := ArithToken.next st.rest
  set { st with rest }
  pure t

/-- Fail with a syntax error. -/
def arithFail {α : Type} (what : String) : ArithM α := throw (ArithError.malformed what)

/-- The value of a variable: one assigned in this expression, or the shell's. -/
def varValue (lookup : String → Option Bytes) (name : String) : ArithM Int64 := do
  match (← get).assigned.find? (·.1 == name) with
  | some (_, v) => pure v
  | none =>
    match numberValue ((lookup name).getD []) with
    | .ok v => pure v
    | .error e => throw e

mutual

/-- **A primary**: a number, a variable, a parenthesized expression, or a unary operator and
its operand. `tok` is the current token and `next` the one after it. -/
def primary (lookup : String → Option Bytes) : Nat → ArithToken → ArithToken → Bool → ArithM Int64
  | 0, _, _, _ => arithFail "expecting primary"
  | n + 1, tok, next, noeval => do
    match tok with
    | .lparen =>
      let v ← assignment lookup n next noeval
      match (← get).last with
      | .rparen =>
        let t ← lexNext
        modify fun st => { st with last := t }
        pure v
      | _ => arithFail "expecting ')'"
    | .num v => modify (fun st => { st with last := next }); pure v
    | .var name =>
      modify fun st => { st with last := next }
      if noeval then pure 0 else varValue lookup name
    | .bin .add => primary lookup n next (← lexNext) noeval
    | .bin .sub => do pure (-(← primary lookup n next (← lexNext) noeval))
    | .not => do pure (if (← primary lookup n next (← lexNext) noeval) == 0 then 1 else 0)
    | .bnot => do pure (~~~(← primary lookup n next (← lexNext) noeval))
    | _ => arithFail "expecting primary"

/-- Binary operators binding tighter than `bound`, after a left operand `a` and operator `op`. -/
def binopRest (lookup : String → Option Bytes) : Nat → Int64 → BinOp → Nat → Bool → ArithM Int64
  | 0, _, _, _, _ => arithFail "expecting primary"
  | n + 1, a, op, bound, noeval => do
    let tok ← lexNext
    let b ← primary lookup n tok (← lexNext) noeval
    let mut b := b
    let mut op2 := (← get).last.binOp?
    if let some o := op2 then
      if o.rank < op.rank then
        b ← binopRest lookup n b o op.rank noeval
        op2 := (← get).last.binOp?
    let a ← if noeval then pure b else
      match op.apply a b with
      | .ok v => pure v
      | .error e => throw e
    match op2 with
    | some o => if o.rank ≥ bound then pure a else binopRest lookup n a o bound noeval
    | none => pure a

/-- A chain of binary operators. -/
def binop (lookup : String → Option Bytes) : Nat → ArithToken → ArithToken → Bool → ArithM Int64
  | 0, _, _, _ => arithFail "expecting primary"
  | n + 1, tok, next, noeval => do
    let a ← primary lookup n tok next noeval
    match (← get).last.binOp? with
    | some op => binopRest lookup n a op 8 noeval
    | none => pure a

/-- `&&`, evaluating its right side only when the left is true. -/
def andExpr (lookup : String → Option Bytes) : Nat → ArithToken → ArithToken → Bool → ArithM Int64
  | 0, _, _, _ => arithFail "expecting primary"
  | n + 1, tok, next, noeval => do
    let a ← binop lookup n tok next noeval
    match (← get).last with
    | .and =>
      let t ← lexNext
      let b ← andExpr lookup n t (← lexNext) (noeval || a == 0)
      pure (if a != 0 && b != 0 then 1 else 0)
    | _ => pure a

/-- `||`, evaluating its right side only when the left is false. -/
def orExpr (lookup : String → Option Bytes) : Nat → ArithToken → ArithToken → Bool → ArithM Int64
  | 0, _, _, _ => arithFail "expecting primary"
  | n + 1, tok, next, noeval => do
    let a ← andExpr lookup n tok next noeval
    match (← get).last with
    | .or =>
      let t ← lexNext
      let b ← orExpr lookup n t (← lexNext) (noeval || a != 0)
      pure (if a != 0 || b != 0 then 1 else 0)
    | _ => pure a

/-- The conditional `a ? b : c`. -/
def condExpr (lookup : String → Option Bytes) : Nat → ArithToken → ArithToken → Bool → ArithM Int64
  | 0, _, _, _ => arithFail "expecting primary"
  | n + 1, tok, next, noeval => do
    let a ← orExpr lookup n tok next noeval
    match (← get).last with
    | .qmark =>
      let b ← assignment lookup n (← lexNext) (noeval || a == 0)
      match (← get).last with
      | .colon =>
        let t ← lexNext
        let c ← condExpr lookup n t (← lexNext) (noeval || a != 0)
        pure (if a != 0 then b else c)
      | _ => arithFail "expecting ':'"
    | _ => pure a

/-- **An assignment**, or a conditional when `tok` is not a variable followed by an assignment
operator. -/
def assignment (lookup : String → Option Bytes) : Nat → ArithToken → Bool → ArithM Int64
  | 0, _, _ => arithFail "expecting primary"
  | n + 1, tok, noeval => do
    let next ← lexNext
    match tok, next with
    | .var name, .assign op =>
      let v ← assignment lookup n (← lexNext) noeval
      if noeval then pure v
      else
        let v ← match op with
          | none => pure v
          | some o => do
            match o.apply (← varValue lookup name) v with
            | .ok r => pure r
            | .error e => throw e
        modify fun st => { st with assigned := (name, v) :: st.assigned }
        pure v
    | _, _ => condExpr lookup n tok next noeval

end

/-- **Evaluating an expression**: its value and the assignments it made, oldest first. -/
def evalArith (lookup : String → Option Bytes) (expr : Bytes) :
    Except ArithError (Int64 × List (String × Int64)) := do
  let fuel := 4 * (expr.length + 2)
  let (t, rest) := ArithToken.next expr
  let (v, st) ← (assignment lookup fuel t false).run { rest }
  match st.last with
  | .eof => .ok (v, st.assigned.reverse)
  | _ => .error (ArithError.malformed "expecting EOF")

end Inventory.Shell

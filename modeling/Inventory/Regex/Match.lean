import Inventory.Regex.Syntax
/-!
# Searching text for a pattern

A pattern is compiled to a program of instructions: consume one character of a set, branch
to two places, jump, check an assertion, or accept. The search runs all threads of the program
side by side over the text, one character at a time, and starts a new thread at every
position, so it answers whether some part of the text matches. Each step follows the branches
and jumps from the live threads until it reaches instructions that consume or accept; a thread
is followed at most once per step, so a step ends after at most as many moves as there are
branch targets.

At each position the assertions see the characters before and after it: `^` and `$` the ends
of the text (or of a line in multi-line mode), `\b` a change between word and non-word
characters, where word characters are ASCII letters, digits and the underscore.
-/

set_option autoImplicit false

namespace Inventory.Regex

open Unicode

/-- An instruction of a compiled pattern; a set of characters is kept as sorted, disjoint
ranges in an array, searched by halving. -/
inductive Inst where
  | char (rs : Array (Nat × Nat))
  | split (x y : Nat)
  | jump (x : Nat)
  | assert (a : Assertion)
  | accept
  deriving Repr

/-- The number of instructions a pattern compiles to. -/
def Node.size : Node → Nat
  | .empty => 0
  | .chars _ => 1
  | .assert _ => 1
  | .cat a b => a.size + b.size
  | .alt a b => a.size + b.size + 2
  | .rep a lo hi =>
    lo * a.size + match hi with
      | none => a.size + 2
      | some h => (h - lo) * (a.size + 1)

mutual

/-- **Compiling** a pattern to instructions placed from `pc` on. -/
def Node.emit (pc : Nat) : Node → List Inst
  | .empty => []
  | .chars rs => [.char (Ranges.normalize rs).toArray]
  | .assert a => [.assert a]
  | .cat a b => a.emit pc ++ b.emit (pc + a.size)
  | .alt a b =>
    let l1 := pc + 1
    let l2 := l1 + a.size + 1
    .split l1 l2 :: a.emit l1 ++ .jump (l2 + b.size) :: b.emit l2
  | .rep a lo hi =>
    let fixed := Node.copies a pc lo
    let pc' := pc + lo * a.size
    fixed ++ match hi with
      | none => .split (pc' + 1) (pc' + a.size + 2) :: a.emit (pc' + 1) ++ [.jump pc']
      | some h => Node.optionals a pc' (h - lo)

/-- `n` copies of a pattern, one after another. -/
def Node.copies (a : Node) (pc : Nat) : Nat → List Inst
  | 0 => []
  | n + 1 => a.emit pc ++ Node.copies a (pc + a.size) n

/-- `n` optional copies of a pattern, each skipped by a branch. -/
def Node.optionals (a : Node) (pc : Nat) : Nat → List Inst
  | 0 => []
  | n + 1 => .split (pc + 1) (pc + 1 + a.size) :: a.emit (pc + 1) ++ Node.optionals a (pc + 1 + a.size) n

end

/-- A compiled pattern: its instructions, ending in `accept`. -/
def Node.program (n : Node) : Array Inst := (n.emit 0 ++ [Inst.accept]).toArray

/-- A word character. -/
def isWordChar (c : Option Char) : Bool :=
  match c with
  | some c => Ranges.contains wordRanges c.toNat
  | none => false

/-- **An assertion** between the character before a position and the one after it. -/
def Assertion.holds (a : Assertion) (before after : Option Char) : Bool :=
  match a with
  | .textStart => before.isNone
  | .textEnd => after.isNone
  | .lineStart => before.isNone || before == some '\n'
  | .lineEnd => after.isNone || after == some '\n'
  | .wordBoundary => isWordChar before != isWordChar after
  | .notWordBoundary => isWordChar before == isWordChar after

/-- **One step's closure**: from the threads in `stack`, follow branches, jumps and assertions
that hold, collecting the instructions that consume or accept. -/
def closure (prog : Array Inst) (before after : Option Char) :
    Nat → List Nat → Array Bool → List Nat → List Nat
  | 0, _, _, acc => acc
  | _, [], _, acc => acc
  | fuel + 1, pc :: stack, seen, acc =>
    if seen.getD pc true then closure prog before after fuel stack seen acc
    else
      let seen := seen.setIfInBounds pc true
      match prog[pc]? with
      | some (.split x y) => closure prog before after fuel (x :: y :: stack) seen acc
      | some (.jump x) => closure prog before after fuel (x :: stack) seen acc
      | some (.assert a) =>
        closure prog before after fuel (if a.holds before after then (pc + 1) :: stack else stack) seen acc
      | some _ => closure prog before after fuel stack seen (pc :: acc)
      | none => closure prog before after fuel stack seen acc

/-- The threads at a position, a new one started there. -/
def threadsAt (prog : Array Inst) (before after : Option Char) (live : List Nat) : List Nat :=
  closure prog before after (3 * prog.size + live.length + 2) (0 :: live)
    (Array.replicate prog.size false) []

/-- Some thread accepts. -/
def accepts (prog : Array Inst) (threads : List Nat) : Bool :=
  threads.any fun pc => match prog[pc]? with
    | some Inst.accept => true
    | _ => false

/-- The threads that consume a character. -/
def advance (prog : Array Inst) (c : Char) (threads : List Nat) : List Nat :=
  threads.filterMap fun pc => match prog[pc]? with
    | some (Inst.char rs) => if Ranges.arrayHas rs c.toNat then some (pc + 1) else none
    | _ => none

/-- **The search** over the rest of a text, the character before it given. -/
def search (prog : Array Inst) : Option Char → List Char → List Nat → Bool
  | before, [], live => accepts prog (threadsAt prog before none live)
  | before, c :: rest, live =>
    let threads := threadsAt prog before (some c) live
    accepts prog threads || search prog (some c) rest (advance prog c threads)

/-- **A text contains a match** of a pattern. -/
def Node.found (n : Node) (text : String) : Bool := search n.program none text.toList []

end Inventory.Regex

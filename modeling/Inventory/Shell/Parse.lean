import Inventory.Shell.Syntax
/-!
# Reading shell scripts

A script is read one line at a time. The reader cuts the text into tokens and groups them by
the grammar of the shell:

* **Tokens.** Blanks separate tokens; `#` at the start of a token begins a comment; a
  backslash before a line end joins the lines. The operators are `;`, `;;`, `&`, `&&`, `|`,
  `||`, `(`, `)`, the line end, and the redirections `<`, `>`, `>>`, `>|`, `<>`, `<<`, `<<-`,
  `<&`, `>&`, which take a single digit written right before them as their descriptor.
  Everything else is a word. A word is a reserved word (`if`, `then`, `{`, ...) only where
  the grammar allows one and only when no part of it is quoted.
* **Words.** Single quotes keep everything up to the next one. Double quotes keep everything
  but `$`, the backquote and the backslash, which escapes only `$`, the backquote, `"`, a
  backslash and a line end. A backslash outside quotes quotes the next character. `$` starts
  a parameter (a name, one digit, or one of `@*#?-$!`), `${...}` with its operators, `$(...)`
  a command substitution whose list is read at once, and `$((...))` an arithmetic expansion;
  a backquoted text is read as a list after its own backslashes are removed. Inside `${...}`
  blanks and operators are text, and the word of `#` and `%` is read as if unquoted.
* **Here-documents.** The body of each here-document starts after the next line end and runs
  to the line equal to its delimiter (leading tabs removed for `<<-`). A quoted delimiter keeps
  the body as it is; otherwise the body is read like double-quoted text in which `"` is plain.
* **Commands.** Lists of and-or lists, pipelines with an optional `!`, simple commands,
  subshells, brace groups, `if`, `while`, `until`, `for`, `case` and function definitions,
  each compound command optionally followed by redirections.

A syntax error names the token found where another was needed, and the line the reader was on:
`"fi" unexpected`, `end of file unexpected (expecting "then")`, `Unterminated quoted string`,
`Missing '}'`, `Bad for loop variable`, `Bad function name`.
-/

set_option autoImplicit false

namespace Inventory.Shell

/-- The operator of a redirection token. -/
inductive RedirOp where
  /-- Open a file. -/
  | file (mode : OpenMode)
  /-- Copy a descriptor, for output or input. -/
  | copy (output : Bool)
  /-- A here-document, with leading tabs stripped when `strip`. -/
  | here (strip : Bool)
  deriving DecidableEq, Repr

/-- A token of a script. -/
inductive Token where
  | eof
  | newline
  | semi
  | amp
  | andIf
  | orIf
  | pipe
  | lparen
  | rparen
  | dsemi
  /-- A redirection operator and its descriptor. -/
  | redir (fd : Nat) (op : RedirOp)
  /-- A word, whether any of it was quoted, and its bytes when it is plain text. -/
  | word (w : Word) (quoted : Bool) (text : Bytes)
  /-- A reserved word. -/
  | keyword (name : String)

/-- The name of a token as syntax errors give it. Two tokens of one name are of one kind. -/
def Token.name : Token → String
  | .eof => "end of file"
  | .newline => "newline"
  | .semi => "\";\""
  | .amp => "\"&\""
  | .andIf => "\"&&\""
  | .orIf => "\"||\""
  | .pipe => "\"|\""
  | .lparen => "\"(\""
  | .rparen => "\")\""
  | .dsemi => "\";;\""
  | .redir _ _ => "redirection"
  | .word _ _ _ => "word"
  | .keyword k => "\"" ++ k ++ "\""

/-- The token is the reserved word `k`. -/
def Token.isKeyword (t : Token) (k : String) : Bool := t.name == "\"" ++ k ++ "\""

/-- Tokens that end a list inside a compound command. -/
def Token.endsList (t : Token) : Bool :=
  ["end of file", "\")\"", "\";;\"", "\"do\"", "\"done\"", "\"elif\"", "\"else\"", "\"esac\"",
    "\"fi\"", "\"then\"", "\"\x7d\""].contains t.name

/-- The literal text of a word with its quotes removed: what a here-document delimiter is
compared with. -/
def wordText : Word → Bytes
  | [] => []
  | .lit bs :: rest => bs ++ wordText rest
  | .quote bs :: rest => bs ++ wordText rest
  | .dquote ps :: rest => wordText ps ++ wordText rest
  | _ :: rest => wordText rest

/-- A word that assigns: plain text starting with a name and `=`. -/
def isAssignment (w : Word) : Bool :=
  match w with
  | .lit bs :: _ =>
    let name := bs.takeWhile isNameByte
    isName name && (bs.drop name.length).head? == some 0x3D
  | _ => false

/-- A here-document waiting for its body. -/
structure Pending where
  slot : Nat
  delimiter : Bytes
  expand : Bool
  strip : Bool

/-- The state of the reader. -/
structure Reader where
  /-- The text not read yet. -/
  input : Bytes
  /-- The line the reader is on. -/
  line : Nat := 1
  /-- Here-documents whose bodies come after the next line end. -/
  pending : List Pending := []
  /-- Bodies read so far, by slot: whether they are expanded, and the body. -/
  bodies : List (Nat × Bool × Word) := []
  /-- Slots handed out. -/
  slots : Nat := 0
  /-- A token given back, to be read again. -/
  pushed : Option Token := none
  /-- The last token read. -/
  last : Token := .eof
  /-- The last word read. -/
  lastWord : Word := []
  /-- Line ends are skipped by the next read. -/
  checkNl : Bool := false
  /-- Reserved words are recognized by the next read. -/
  checkKwd : Bool := false
  /-- The next read is a here-document delimiter: `$` and the backquote are plain. -/
  checkDelimiter : Bool := false
  /-- Some part of the word being read was quoted. -/
  sawQuote : Bool := false

/-- A step of reading. -/
abbrev Parse (α : Type) := StateT Reader (Except SyntaxError) α

/-- Fail with a message at the current line. -/
def failWith {α : Type} (msg : String) : Parse α := do
  throw ⟨(← get).line, "Syntax error: " ++ msg⟩

/-- Fail because the last token was not wanted, naming the one that was, if any. -/
def unexpected {α : Type} (expecting : Option String) : Parse α := do
  let found := (← get).last.name
  match expecting with
  | some e => failWith (found ++ " unexpected (expecting " ++ e ++ ")")
  | none => failWith (found ++ " unexpected")

/-- Reading went deeper than the text allows. -/
def exhausted {α : Type} : Parse α := failWith "nesting too deep"

/-- Give the last token back. -/
def pushBack : Parse Unit := modify fun r => { r with pushed := some r.last }

/-- Say how the next token is read. -/
def setCheck (nl kwd : Bool) : Parse Unit :=
  modify fun r => { r with checkNl := nl, checkKwd := kwd }

/-- Move past `n` bytes. -/
def advance (n : Nat) : Parse Unit := modify fun r => { r with input := r.input.drop n }

/-- Count a line end. -/
def nextLine : Parse Unit := modify fun r => { r with line := r.line + 1 }

/-- Drop backslash-newline pairs at the front, counting the lines. -/
def joinLines : Nat → Parse Unit
  | 0 => pure ()
  | k + 1 => do
    match (← get).input with
    | 0x5C :: 0x0A :: _ => advance 2; nextLine; joinLines k
    | _ => pure ()

/-- Skip blanks, joined lines and a comment before a token. -/
def skipBlanks : Nat → Parse Unit
  | 0 => pure ()
  | k + 1 => do
    match (← get).input with
    | 0x20 :: _ | 0x09 :: _ => advance 1; skipBlanks k
    | 0x5C :: 0x0A :: _ => advance 2; nextLine; skipBlanks k
    | 0x23 :: rest => advance (1 + (rest.takeWhile (· != 0x0A)).length)
    | _ => pure ()

/-- A byte that ends a plain word. -/
def isMeta (c : UInt8) : Bool :=
  c == 0x20 || c == 0x09 || c == 0x0A || c == 0x3B || c == 0x26 || c == 0x7C || c == 0x3C ||
    c == 0x3E || c == 0x28 || c == 0x29

/-- A byte naming a special parameter. -/
def isSpecialParam (c : UInt8) : Bool :=
  c == 0x40 || c == 0x2A || c == 0x23 || c == 0x3F || c == 0x2D || c == 0x24 || c == 0x21 ||
    isDigitByte c

/-- Where a stretch of a word is read. -/
inductive Ctx where
  /-- A word of the script. -/
  | bare
  /-- A here-document delimiter. -/
  | delimiter
  /-- Between double quotes. -/
  | dquoted
  /-- The word of `${name op word}`, read as double-quoted text when `dq`; `inner` when an
  inner pair of double quotes is open. -/
  | varWord (dq inner : Bool)
  /-- The body of a here-document. -/
  | heredoc
  /-- Inside `$(( ))`, with `depth` parentheses open. -/
  | arith (depth : Nat)

/-- Plain and single quotes are quoting here. -/
def Ctx.quotes : Ctx → Bool
  | .bare | .delimiter | .varWord false _ => true
  | _ => false

/-- Text read so far: parts (newest first) and plain bytes not yet made a part (reversed). -/
def flush (acc : Word) (text : Bytes) : Word :=
  if text.isEmpty then acc else .lit text.reverse :: acc

/-- The body of one here-document from the lines at the front: its text, with continued lines
joined when `join`, and the lines used. -/
def bodyLines (p : Pending) (join : Bool) : Nat → Bytes → Bytes × Nat × Bytes
  | 0, s => ([], 0, s)
  | _, [] => ([], 0, [])
  | k + 1, s =>
    let line := s.takeWhile (· != 0x0A)
    let hasEnd := line.length < s.length
    let rest := s.drop (line.length + 1)
    let shown := if p.strip then line.dropWhile (· == 0x09) else line
    if shown == p.delimiter then ([], 1, rest)
    else
      let trailing := (line.reverse.takeWhile (· == 0x5C)).length
      if join && hasEnd && trailing % 2 == 1 then
        -- a backslash before the line end joins the next line, which is not a delimiter
        let next := rest.takeWhile (· != 0x0A)
        let nextEnd := next.length < rest.length
        let (more, used, after) := bodyLines p join k (rest.drop (next.length + 1))
        (shown.dropLast ++ next ++ (if nextEnd then [0x0A] else []) ++ more, used + 2,
          if nextEnd then after else [])
      else
        let (more, used, after) := bodyLines p join k rest
        (shown ++ (if hasEnd then [0x0A] else []) ++ more, used + 1, after)

/-- The text of a backquoted substitution after its opening backquote: the text with the
backslashes before `\`, `$` and the backquote (and `"` within double quotes when `dq`)
removed, what follows the closing backquote, and the line ends passed; nothing when the text
ends first. -/
def backquoteText (dq : Bool) : Nat → Bytes → Bytes → Nat → Option (Bytes × Bytes × Nat)
  | 0, _, _, _ => none
  | _, [], _, _ => none
  | _ + 1, 0x60 :: rest, acc, lines => some (acc.reverse, rest, lines)
  | k + 1, 0x5C :: 0x0A :: rest, acc, lines => backquoteText dq k rest acc (lines + 1)
  | _ + 1, 0x5C :: [], _, _ => none
  | k + 1, 0x5C :: d :: rest, acc, lines =>
    if d == 0x5C || d == 0x60 || d == 0x24 || (dq && d == 0x22) then backquoteText dq k rest (d :: acc) lines
    else backquoteText dq k rest (d :: 0x5C :: acc) (if d == 0x0A then lines + 1 else lines)
  | k + 1, c :: rest, acc, lines =>
    backquoteText dq k rest (c :: acc) (if c == 0x0A then lines + 1 else lines)

mutual

/-- **Reading the parts of a word** in a context, up to the end of the context. -/
def readParts : Nat → Ctx → Word → Bytes → Parse Word
  | 0, _, _, _ => exhausted
  | n + 1, ctx, acc, text => do
    let r ← get
    match r.input with
    | [] =>
      match ctx with
      | .bare | .delimiter | .heredoc => pure (flush acc text).reverse
      | .dquoted | .varWord true _ | .varWord false true => failWith "Unterminated quoted string"
      | .varWord false false => failWith "Missing '\x7d'"
      | .arith _ => failWith "Missing '))'"
    | c :: rest =>
      if c == 0x5C then
        match rest with
        | 0x0A :: _ => advance 2; nextLine; readParts n ctx acc text
        | [] =>
          advance 1
          if ctx.quotes then
            set { (← get) with sawQuote := true }
            readParts n ctx (.quote [0x5C] :: flush acc text) []
          else readParts n ctx acc (0x5C :: text)
        | d :: _ =>
          advance 2
          if ctx.quotes then
            set { (← get) with sawQuote := true }
            readParts n ctx (.quote [d] :: flush acc text) []
          else
            let escapes := match ctx with
              | .heredoc => d == 0x5C || d == 0x60 || d == 0x24
              | .varWord _ _ => d == 0x5C || d == 0x60 || d == 0x24 || d == 0x22 || d == 0x7D
              | _ => d == 0x5C || d == 0x60 || d == 0x24 || d == 0x22
            if d == 0x0A then nextLine
            if escapes then readParts n ctx acc (d :: text)
            else readParts n ctx acc (d :: 0x5C :: text)
      else if c == 0x27 && ctx.quotes then
        let body := rest.takeWhile (· != 0x27)
        if body.length < rest.length then
          let lines := body.count 0x0A
          set { r with input := rest.drop (body.length + 1), line := r.line + lines, sawQuote := true }
          readParts n ctx (.quote body :: flush acc text) []
        else
          set { r with input := [], line := r.line + body.count 0x0A }
          failWith "Unterminated quoted string"
      else if c == 0x22 then
        match ctx with
        | .dquoted => advance 1; pure (flush acc text).reverse
        | .varWord true inner =>
          advance 1
          set { (← get) with sawQuote := true }
          readParts n (.varWord true !inner) acc text
        | .heredoc => advance 1; readParts n ctx acc (c :: text)
        | _ =>
          advance 1
          let ps ← readParts n .dquoted [] []
          set { (← get) with sawQuote := true }
          readParts n ctx (.dquote ps :: flush acc text) []
      else if c == 0x24 && !(ctx matches .delimiter) then
        advance 1
        let dq := match ctx with
          | .bare | .varWord false _ => false
          | _ => true
        match ← readDollar n dq with
        | some p => readParts n ctx (p :: flush acc text) []
        | none => readParts n ctx acc (0x24 :: text)
      else if c == 0x60 && !(ctx matches .delimiter) then
        advance 1
        let dq := match ctx with
          | .bare | .varWord false _ => false
          | _ => true
        let p ← readBackquote n dq
        readParts n ctx (p :: flush acc text) []
      else
        match ctx with
        | .bare | .delimiter =>
          if isMeta c then pure (flush acc text).reverse
          else advance 1; readParts n ctx acc (c :: text)
        | .varWord dq inner =>
          advance 1
          if c == 0x7D && !inner then pure (flush acc text).reverse
          else
            if c == 0x0A then nextLine
            readParts n (.varWord dq inner) acc (c :: text)
        | .arith depth =>
          advance 1
          if c == 0x28 then readParts n (.arith (depth + 1)) acc (c :: text)
          else if c == 0x29 then
            if depth > 0 then readParts n (.arith (depth - 1)) acc (c :: text)
            else
              joinLines (rest.length + 1)
              match (← get).input with
              | 0x29 :: _ => advance 1; pure (flush acc text).reverse
              | _ => readParts n ctx acc (c :: text)
          else
            if c == 0x0A then nextLine
            readParts n ctx acc (c :: text)
        | _ =>
          advance 1
          if c == 0x0A then nextLine
          readParts n ctx acc (c :: text)

/-- **What follows a `$`**: a part, or nothing when the `$` is plain text. Within double
quotes when `dq`. -/
def readDollar : Nat → Bool → Parse (Option Part)
  | 0, _ => exhausted
  | n + 1, dq => do
    joinLines ((← get).input.length + 1)
    match (← get).input with
    | 0x28 :: _ =>
      advance 1
      joinLines ((← get).input.length + 1)
      match (← get).input with
      | 0x28 :: _ =>
        advance 1
        let ps ← readParts n (.arith 0) [] []
        pure (some (.arith ps))
      | _ => some <$> readSubst n
    | 0x7B :: _ => advance 1; some <$> readBraced n dq
    | c :: rest =>
      if isNameStart c then
        let name := (c :: rest).takeWhile isNameByte
        advance name.length
        pure (some (.param (ascii name) .plain))
      else if isSpecialParam c then
        advance 1
        pure (some (.param (ascii [c]) .plain))
      else pure none
    | [] => pure none

/-- **A braced parameter expansion** after its `${`. -/
def readBraced : Nat → Bool → Parse Part
  | 0, _ => exhausted
  | n + 1, dq => do
    let s := (← get).input
    -- the name, and whether `#` asked for the length
    let (name, length, consumed) : String × Bool × Nat := match s with
      | c :: rest =>
        if isNameStart c then let nm := (c :: rest).takeWhile isNameByte; (ascii nm, false, nm.length)
        else if isDigitByte c then let nm := (c :: rest).takeWhile isDigitByte; (ascii nm, false, nm.length)
        else if c == 0x7D then ("", false, 0)
        else if c == 0x23 then
          match rest with
          | d :: more =>
            if isNameStart d then let nm := (d :: more).takeWhile isNameByte; (ascii nm, true, 1 + nm.length)
            else if isDigitByte d then let nm := (d :: more).takeWhile isDigitByte; (ascii nm, true, 1 + nm.length)
            else if d != 0x7D && more.head? == some 0x7D then
              (if isSpecialParam d then (ascii [d], true, 2) else ("", false, 1))
            else ("#", false, 1)
          | [] => ("#", false, 1)
        else if isSpecialParam c then (ascii [c], false, 1)
        else ("", false, 1)
      | [] => ("", false, 0)
    advance consumed
    let after := (← get).input
    if length then
      let w ← readParts n (.varWord dq false) [] []
      pure (.param name (if w.isEmpty then .length else .bad))
    else if name.isEmpty then
      let _ ← readParts n (.varWord dq false) [] []
      pure (.param "" .bad)
    else
      let (colon, op, more) : Bool × Option UInt8 × Bytes := match after with
        | 0x3A :: d :: more => (true, some d, more)
        | 0x3A :: [] => (true, none, [])
        | d :: more => (false, some d, more)
        | [] => (false, none, [])
      match op with
      | some 0x7D =>
        set { (← get) with input := more }
        pure (.param name .plain)
      | some 0x2D | some 0x3D | some 0x3F | some 0x2B =>
        set { (← get) with input := more }
        let w ← readParts n (.varWord dq false) [] []
        pure (.param name (match op with
          | some 0x2D => .useDefault colon w
          | some 0x3D => .assignDefault colon w
          | some 0x3F => .errorIfUnset colon w
          | _ => .useAlternative colon w))
      | some 0x23 | some 0x25 =>
        if colon then
          set { (← get) with input := more }
          let _ ← readParts n (.varWord dq false) [] []
          pure (.param name .bad)
        else
          let doubled := more.head? == op
          set { (← get) with input := if doubled then more.drop 1 else more }
          let w ← readParts n (.varWord false false) [] []
          pure (.param name (if op == some 0x23 then .removePrefix doubled w else .removeSuffix doubled w))
      | _ =>
        set { (← get) with input := more }
        let _ ← readParts n (.varWord dq false) [] []
        pure (.param name .bad)

/-- **A backquoted command substitution** after its opening backquote: the text up to the
closing one, with the backslashes before `\`, `$` and the backquote (and `"` within double
quotes) removed, read as a list. -/
def readBackquote : Nat → Bool → Parse Part
  | 0, _ => exhausted
  | n + 1, dq => do
    let r ← get
    let startLine := r.line
    match backquoteText dq (r.input.length + 1) r.input [] 0 with
    | none =>
      set { r with input := [], line := r.line + r.input.count 0x0A }
      failWith "EOF in backquote substitution"
    | some (body, rest, lines) =>
      let outer := r
      set ({ input := body, line := startLine, bodies := r.bodies, slots := r.slots } : Reader)
      let cmd ← list n 2
      let inner ← get
      set { outer with input := rest, line := startLine + lines }
      modify fun r => { r with bodies := inner.bodies, slots := inner.slots }
      pure (.subst (cmd.getD .nothing))

/-- **A command substitution** after its `$(`: a list, then `)`. -/
def readSubst : Nat → Parse Part
  | 0 => exhausted
  | n + 1 => do
    let saved := (← get).pending
    set { (← get) with pending := [] }
    let cmd ← list n 2
    let t ← readToken n
    if t.name != Token.rparen.name then unexpected (some Token.rparen.name)
    readBodies n
    set { (← get) with pending := saved }
    pure (.subst (cmd.getD .nothing))

/-- **Reading the bodies** of the pending here-documents from the front of the text. -/
def readBodies : Nat → Parse Unit
  | 0 => exhausted
  | n + 1 => do
    let r ← get
    match r.pending with
    | [] => pure ()
    | p :: more =>
      let (text, used, rest) := bodyLines p p.expand (r.input.length + 1) r.input
      set { r with pending := more, input := rest, line := r.line + used }
      let body ← if p.expand then do
          let outer ← get
          set { outer with input := text, pending := [], line := r.line }
          let w ← readParts n .heredoc [] []
          let inner ← get
          set { outer with bodies := inner.bodies, slots := inner.slots }
          pure w
        else pure [Part.lit text]
      modify fun r => { r with bodies := r.bodies ++ [(p.slot, p.expand, body)] }
      readBodies n

/-- **The next token**, as the checks set before it ask: line ends skipped, reserved words
recognized, or a here-document delimiter read. -/
def readToken : Nat → Parse Token
  | 0 => exhausted
  | n + 1 => do
    let r ← get
    set { r with checkNl := false, checkKwd := false, checkDelimiter := false }
    let t ← nextToken n r.checkDelimiter
    let t ← if r.checkNl then skipNewlines n t else pure t
    let t := match t with
      | .word _ false text =>
        if r.checkKwd && keywords.contains (ascii text) && !text.isEmpty then .keyword (ascii text) else t
      | _ => t
    modify fun r => { r with last := t }
    pure t

/-- Skip line-end tokens. -/
def skipNewlines : Nat → Token → Parse Token
  | 0, _ => exhausted
  | n + 1, t =>
    match t with
    | .newline => do skipNewlines n (← nextToken n false)
    | _ => pure t

/-- **The next token** from the text, or the one given back. -/
def nextToken : Nat → Bool → Parse Token
  | 0, _ => exhausted
  | n + 1, isDelimiter => do
    match (← get).pushed with
    | some t => modify (fun r => { r with pushed := none }); pure t
    | none =>
      skipBlanks ((← get).input.length + 1)
      match (← get).input with
      | [] =>
        -- here-documents still waiting get empty bodies
        readBodies n
        pure .eof
      | 0x0A :: _ => advance 1; nextLine; readBodies n; pure .newline
      | 0x26 :: 0x26 :: _ => advance 2; pure .andIf
      | 0x26 :: _ => advance 1; pure .amp
      | 0x7C :: 0x7C :: _ => advance 2; pure .orIf
      | 0x7C :: _ => advance 1; pure .pipe
      | 0x3B :: 0x3B :: _ => advance 2; pure .dsemi
      | 0x3B :: _ => advance 1; pure .semi
      | 0x28 :: _ => advance 1; pure .lparen
      | 0x29 :: _ => advance 1; pure .rparen
      | _ =>
        modify fun r => { r with sawQuote := false }
        let w ← readParts n (if isDelimiter then .delimiter else .bare) [] []
        let r ← get
        let fd? : Option Nat := match w with
          | [] => some 0
          | [.lit [d]] => if isDigitByte d then some (d.toNat - 48 + 1) else none
          | _ => none
        match r.input, fd? with
        | 0x3E :: more, some fd =>
          let (op, len) : RedirOp × Nat := match more with
            | 0x3E :: _ => (.file .append, 2)
            | 0x7C :: _ => (.file .clobber, 2)
            | 0x26 :: _ => (.copy true, 2)
            | _ => (.file .write, 1)
          advance len
          pure (.redir (if fd = 0 then 1 else fd - 1) op)
        | 0x3C :: more, some fd =>
          let (op, len) : RedirOp × Nat := match more with
            | 0x3C :: 0x2D :: _ => (.here true, 3)
            | 0x3C :: _ => (.here false, 2)
            | 0x26 :: _ => (.copy false, 2)
            | 0x3E :: _ => (.file .readWrite, 2)
            | _ => (.file .read, 1)
          advance len
          pure (.redir (if fd = 0 then 0 else fd - 1) op)
        | _, _ =>
          let text := match w with
            | [.lit t] => if r.sawQuote then [] else t
            | _ => []
          set { r with lastWord := w }
          pure (.word w r.sawQuote text)

/-- **A list**: and-or lists separated by `;`, `&` or line ends. At the top of a script
(`nlflag` 1) it ends at a line end; inside a compound command (0) it runs to a token that ends
lists, which may not come first; a `case` arm or substitution (2) may be empty. -/
def list : Nat → Nat → Parse (Option Cmd)
  | 0, _ => exhausted
  | n + 1, nlflag => listLoop n (nlflag % 2 == 0) nlflag none

/-- The loop of `list`. -/
def listLoop : Nat → Bool → Nat → Option Cmd → Parse (Option Cmd)
  | 0, _, _, _ => exhausted
  | n + 1, chknl, nlflag, acc => do
    setCheck chknl true
    let t ← readToken n
    match t with
    | .newline => pure acc
    | .eof => pushBack; pure acc
    | _ =>
      pushBack
      if nlflag == 2 && t.endsList then pure acc
      else
        let c ← andOr n
        let t ← readToken n
        let c := match t with
          | .amp => Cmd.background c
          | _ => c
        let acc := some (match acc with
          | none => c
          | some a => Cmd.seq a c)
        match t with
        | .eof => pushBack; pure acc
        | .newline => pushBack; listLoop n chknl (nlflag ||| 2) acc
        | .amp | .semi => listLoop n chknl (nlflag ||| 2) acc
        | _ => if !chknl then unexpected none else do pushBack; pure acc

/-- **An and-or list**: pipelines joined by `&&` and `||`. -/
def andOr : Nat → Parse Cmd
  | 0 => exhausted
  | n + 1 => do andOrLoop n (← pipeline n)

/-- The loop of `andOr`. -/
def andOrLoop : Nat → Cmd → Parse Cmd
  | 0, _ => exhausted
  | n + 1, acc => do
    match ← readToken n with
    | .andIf => setCheck true true; andOrLoop n (.andThen acc (← pipeline n))
    | .orIf => setCheck true true; andOrLoop n (.orElse acc (← pipeline n))
    | _ => pushBack; pure acc

/-- **A pipeline**: commands joined by `|`, after an optional `!`. -/
def pipeline : Nat → Parse Cmd
  | 0 => exhausted
  | n + 1 => do
    let t ← readToken n
    let negate := t.isKeyword "!"
    if negate then setCheck false true else pushBack
    let first ← command n
    let t ← readToken n
    let c ← match t with
      | .pipe => do pure (Cmd.pipe (← pipeStages n [first]))
      | _ => pure first
    pushBack
    pure (if negate then .not c else c)

/-- The commands after a `|`. -/
def pipeStages : Nat → List Cmd → Parse (List Cmd)
  | 0, _ => exhausted
  | n + 1, acc => do
    setCheck true true
    let c ← command n
    match ← readToken n with
    | .pipe => pipeStages n (acc ++ [c])
    | _ => pure (acc ++ [c])

/-- Read the token that closes a compound command. -/
def expectClose : Nat → Token → Parse Unit
  | 0, _ => exhausted
  | n + 1, closing => do
    let t ← readToken n
    if t.name != closing.name then unexpected (some closing.name)

/-- **A command**: a compound command with its redirections, a function definition, or a
simple command. -/
def command : Nat → Parse Cmd
  | 0 => exhausted
  | n + 1 => do
    let line := (← get).line
    let t ← readToken n
    match t with
    | .keyword "if" =>
      let test ← list n 0
      expectClose n (.keyword "then")
      let body ← list n 0
      let other ← elseParts n
      expectClose n (.keyword "fi")
      redirTail n line (.ifThen (test.getD .nothing) (body.getD .nothing) other) []
    | .keyword "while" | .keyword "until" =>
      let test ← list n 0
      expectClose n (.keyword "do")
      let body ← list n 0
      expectClose n (.keyword "done")
      redirTail n line (.loop (t.isKeyword "until") (test.getD .nothing) (body.getD .nothing)) []
    | .keyword "for" =>
      let name ← match ← readToken n with
        | .word _ false text => if isName text then pure (ascii text) else failWith "Bad for loop variable"
        | _ => failWith "Bad for loop variable"
      setCheck true true
      let items ← match ← readToken n with
        | .keyword "in" => do
          let ws ← forWords n []
          let last := (← get).last
          if last.name != Token.newline.name && last.name != Token.semi.name then unexpected none
          pure (some ws)
        | .semi => pure none
        | _ => do pushBack; pure none
      setCheck true true
      expectClose n (.keyword "do")
      let body ← list n 0
      expectClose n (.keyword "done")
      redirTail n line (.forEach line name items (body.getD .nothing)) []
    | .keyword "case" =>
      let subject ← match ← readToken n with
        | .word w _ _ => pure w
        | _ => unexpected (some "word")
      setCheck true true
      expectClose n (.keyword "in")
      let arms ← caseArms n []
      redirTail n line (.caseOf line subject arms) []
    | .lparen =>
      let body ← list n 0
      expectClose n .rparen
      redirTail n line (.subshell line (body.getD .nothing) []) []
    | .keyword "\x7b" =>
      let body ← list n 0
      expectClose n (.keyword "\x7d")
      redirTail n line (body.getD .nothing) []
    | .word _ _ _ | .redir _ _ => pushBack; simpleCommand n (← get).line [] [] [] true
    | _ => unexpected none

/-- The `elif` and `else` parts of an `if`. -/
def elseParts : Nat → Parse (Option Cmd)
  | 0 => exhausted
  | n + 1 => do
    let t ← readToken n
    if t.isKeyword "elif" then
      let test ← list n 0
      expectClose n (.keyword "then")
      let body ← list n 0
      let other ← elseParts n
      pure (some (.ifThen (test.getD .nothing) (body.getD .nothing) other))
    else if t.isKeyword "else" then
      pure (some ((← list n 0).getD .nothing))
    else
      pushBack
      pure none

/-- The words of `for name in words`. -/
def forWords : Nat → List Word → Parse (List Word)
  | 0, _ => exhausted
  | n + 1, acc => do
    match ← readToken n with
    | .word w _ _ => forWords n (acc ++ [w])
    | _ => pure acc

/-- The arms of a `case`, up to `esac`. -/
def caseArms : Nat → List CaseArm → Parse (List CaseArm)
  | 0, _ => exhausted
  | n + 1, acc => do
    setCheck true true
    let t ← readToken n
    if t.isKeyword "esac" then pure acc
    else
      if t.name == Token.lparen.name then discard (readToken n)
      let patterns ← casePatterns n [(← get).lastWord]
      if (← get).last.name != Token.rparen.name then unexpected (some Token.rparen.name)
      let body ← list n 2
      let arm := CaseArm.arm patterns (body.getD .nothing)
      setCheck true true
      let t ← readToken n
      if t.isKeyword "esac" then pure (acc ++ [arm])
      else if t.name != Token.dsemi.name then unexpected (some Token.dsemi.name)
      else caseArms n (acc ++ [arm])

/-- The patterns of a `case` arm after the first, each after a `|`. -/
def casePatterns : Nat → List Word → Parse (List Word)
  | 0, _ => exhausted
  | n + 1, acc => do
    match ← readToken n with
    | .pipe =>
      let _ ← readToken n
      casePatterns n (acc ++ [(← get).lastWord])
    | _ => pure acc

/-- The redirections after a compound command. -/
def redirTail : Nat → Nat → Cmd → List Redir → Parse Cmd
  | 0, _, _, _ => exhausted
  | n + 1, line, c, acc => do
    setCheck false true
    match ← readToken n with
    | .redir fd op => redirTail n line c (acc ++ [← redirTarget n fd op])
    | _ =>
      pushBack
      if acc.isEmpty then pure c
      else
        match c with
        | .subshell l body _ => pure (.subshell l body acc)
        | _ => pure (.redirected line c acc)

/-- **The target of a redirection**: a file name, a descriptor, or a here-document delimiter. -/
def redirTarget : Nat → Nat → RedirOp → Parse Redir
  | 0, _, _ => exhausted
  | n + 1, fd, op => do
    if op matches .here _ then modify fun r => { r with checkDelimiter := true }
    match ← readToken n with
    | .word w quoted _ =>
      match op with
      | .here strip =>
        let r ← get
        let p : Pending := { slot := r.slots, delimiter := wordText w, expand := !quoted, strip }
        set { r with slots := r.slots + 1, pending := r.pending ++ [p] }
        pure (.pending fd p.slot)
      | .copy output =>
        match w with
        | [.lit [d]] =>
          if isDigitByte d then pure (.copy fd output (d.toNat - 48))
          else if d == 0x2D then pure (.close fd output)
          else pure (.copyWord fd output w)
        | _ => pure (.copyWord fd output w)
      | .file mode => pure (.file fd mode w)
    | _ => unexpected none

/-- **A simple command**: assignments first, then words, with redirections anywhere; or a
function definition, when a single word is followed by `()`. -/
def simpleCommand : Nat → Nat → List Word → List Word → List Redir → Bool → Parse Cmd
  | 0, _, _, _, _, _ => exhausted
  | n + 1, line, assigns, words, redirs, assigning => do
    setCheck false false
    match ← readToken n with
    | .word w _ _ =>
      if assigning && isAssignment w then simpleCommand n line (assigns ++ [w]) words redirs true
      else simpleCommand n line assigns (words ++ [w]) redirs false
    | .redir fd op => simpleCommand n line assigns words (redirs ++ [← redirTarget n fd op]) assigning
    | .lparen =>
      match assigns, words, redirs with
      | [], [w], [] =>
        if (← readToken n).name != Token.rparen.name then unexpected (some Token.rparen.name)
        let name := match w with
          | [.lit t] => t
          | _ => []
        if !isName name || specialBuiltins.contains (ascii name) then failWith "Bad function name"
        let defLine := (← get).line
        setCheck true true
        let body ← command n
        pure (.function defLine (ascii name) body)
      | _, _, _ => pushBack; pure (.simple line assigns words redirs)
    | _ => pushBack; pure (.simple line assigns words redirs)

end

/-! ## Filling in here-documents -/

mutual

/-- Put the bodies of here-documents into a command. -/
def fillCmd (bodies : List (Nat × Bool × Word)) : Nat → Cmd → Cmd
  | 0, c => c
  | k + 1, c =>
    match c with
    | .nothing => .nothing
    | .simple l a w r => .simple l (a.map (fillWord bodies k)) (w.map (fillWord bodies k)) (r.map (fillRedir bodies k))
    | .not b => .not (fillCmd bodies k b)
    | .pipe cs => .pipe (cs.map (fillCmd bodies k))
    | .andThen a b => .andThen (fillCmd bodies k a) (fillCmd bodies k b)
    | .orElse a b => .orElse (fillCmd bodies k a) (fillCmd bodies k b)
    | .seq a b => .seq (fillCmd bodies k a) (fillCmd bodies k b)
    | .background b => .background (fillCmd bodies k b)
    | .subshell l b r => .subshell l (fillCmd bodies k b) (r.map (fillRedir bodies k))
    | .redirected l b r => .redirected l (fillCmd bodies k b) (r.map (fillRedir bodies k))
    | .ifThen t b o => .ifThen (fillCmd bodies k t) (fillCmd bodies k b) (o.map (fillCmd bodies k))
    | .loop u t b => .loop u (fillCmd bodies k t) (fillCmd bodies k b)
    | .forEach l nm ws b => .forEach l nm (ws.map (·.map (fillWord bodies k))) (fillCmd bodies k b)
    | .caseOf l s arms => .caseOf l (fillWord bodies k s) (arms.map (fillArm bodies k))
    | .function l nm b => .function l nm (fillCmd bodies k b)

/-- Put the bodies of here-documents into a case arm. -/
def fillArm (bodies : List (Nat × Bool × Word)) : Nat → CaseArm → CaseArm
  | 0, a => a
  | k + 1, .arm ps b => .arm (ps.map (fillWord bodies k)) (fillCmd bodies k b)

/-- Put the bodies of here-documents into a redirection. -/
def fillRedir (bodies : List (Nat × Bool × Word)) : Nat → Redir → Redir
  | 0, r => r
  | k + 1, r =>
    match r with
    | .pending fd slot =>
      match bodies.find? (·.1 == slot) with
      | some (_, expand, body) => .here fd expand (fillWord bodies k body)
      | none => .here fd false []
    | .file fd m w => .file fd m (fillWord bodies k w)
    | .copyWord fd o w => .copyWord fd o (fillWord bodies k w)
    | r => r

/-- Put the bodies of here-documents into a word. -/
def fillWord (bodies : List (Nat × Bool × Word)) : Nat → Word → Word
  | 0, w => w
  | k + 1, w => w.map (fillPart bodies k)

/-- Put the bodies of here-documents into a part. -/
def fillPart (bodies : List (Nat × Bool × Word)) : Nat → Part → Part
  | 0, p => p
  | k + 1, p =>
    match p with
    | .dquote ps => .dquote (fillWord bodies k ps)
    | .subst c => .subst (fillCmd bodies k c)
    | .arith ps => .arith (fillWord bodies k ps)
    | .param nm op => .param nm (fillExpansion bodies k op)
    | p => p

/-- Put the bodies of here-documents into an expansion. -/
def fillExpansion (bodies : List (Nat × Bool × Word)) : Nat → Expansion → Expansion
  | 0, e => e
  | k + 1, e =>
    match e with
    | .useDefault c w => .useDefault c (fillWord bodies k w)
    | .assignDefault c w => .assignDefault c (fillWord bodies k w)
    | .errorIfUnset c w => .errorIfUnset c (fillWord bodies k w)
    | .useAlternative c w => .useAlternative c (fillWord bodies k w)
    | .removePrefix l w => .removePrefix l (fillWord bodies k w)
    | .removeSuffix l w => .removeSuffix l (fillWord bodies k w)
    | e => e

end

/-! ## Lines -/

/-- What reading the next line of a script gives. -/
inductive Line where
  /-- A line holding commands. -/
  | run (c : Cmd)
  /-- A line holding none. -/
  | blank
  /-- The end of the script. -/
  | finished
  /-- A syntax error. -/
  | fault (e : SyntaxError)

/-- How deep reading may go for a text of `n` bytes. -/
def depthFor (n : Nat) : Nat := 32 * (n + 2)

/-- **Reading the next line** of a script: the commands up to a line end, and the reader after
them. -/
def Reader.nextLine (r : Reader) : Line × Reader :=
  let fresh := { r with pending := [], bodies := [], slots := 0, pushed := none }
  let fuel := depthFor r.input.length
  match (list fuel 1).run fresh with
  | .error e => (.fault e, { r with input := [] })
  | .ok (none, r') => (if r'.last.name == Token.eof.name then .finished else .blank, r')
  | .ok (some c, r') => (.run (fillCmd r'.bodies fuel c), r')

/-- A reader at the start of a script. -/
def Reader.ofScript (s : Bytes) (line : Nat := 1) : Reader := { input := s, line }

end Inventory.Shell

import Inventory.Text.Utf8
import Inventory.Text.Printable
/-!
# Quoted text in messages

Error messages show user text between double quotes, with escapes for what would not print.
Three forms are used:

* `quote` writes printable characters as themselves and every other character as the shortest
  of `\a \b \f \n \r \t \v`, `\xHH` (below the space, and DEL), `\uHHHH` or `\UHHHHHHHH`;
  a quote and a backslash get a backslash;
* `quoteByte` shows one byte of malformed JSON between single quotes, reading the byte as the
  code point of the same number;
* `quoteOctets` escapes every byte outside printable ASCII as `\xHH`, the form duration
  messages use.

Hexadecimal digits are lower case throughout.
-/

set_option autoImplicit false

namespace Inventory.Text

/-- The lower-case hexadecimal digit of a number below sixteen. -/
def hexDigit (n : Nat) : Char :=
  if n < 10 then Char.ofNat (48 + n) else Char.ofNat (87 + n)

/-- The `width` lowest hexadecimal digits of `v`, most significant first. -/
def hexDigits (width v : Nat) : List Char :=
  (List.range width).reverse.map fun i => hexDigit (v / Nat.pow 16 i % 16)

/-- **Escaping one character** for a text quoted by `delim`. -/
def escapeChar (delim : Char) (c : Char) : List Char :=
  if c = delim || c = '\\' then ['\\', c]
  else if isPrintable c then [c]
  else
    match c with
    | '\x07' => ['\\', 'a']
    | '\x08' => ['\\', 'b']
    | '\x0c' => ['\\', 'f']
    | '\n' => ['\\', 'n']
    | '\r' => ['\\', 'r']
    | '\t' => ['\\', 't']
    | '\x0b' => ['\\', 'v']
    | _ =>
      let v := c.toNat
      if v < 0x20 || v = 0x7F then '\\' :: 'x' :: hexDigits 2 v
      else if v < 0x10000 then '\\' :: 'u' :: hexDigits 4 v
      else '\\' :: 'U' :: hexDigits 8 v

/-- **Double-quoted text.** -/
def quote (s : String) : String :=
  String.ofList ('"' :: s.toList.flatMap (escapeChar '"') ++ ['"'])

/-- Double-quoted bytes: well-formed sequences as in `quote`, each stray byte as `\xHH`. -/
def quoteBytes : Bytes → List Char
  | [] => []
  | b :: rest =>
    match Utf8.scalar? (b :: rest) with
    | some (c, k) => escapeChar '"' c ++ quoteBytes (rest.drop k)
    | none => '\\' :: 'x' :: hexDigits 2 b.toNat ++ quoteBytes rest
termination_by bs => bs.length
decreasing_by
  all_goals simp only [List.length_drop, List.length_cons]
  all_goals omega

/-- **One byte of malformed input,** between single quotes. -/
def quoteByte (b : UInt8) : String :=
  if b = 0x27 then "'\\''"
  else if b = 0x22 then "'\"'"
  else String.ofList ('\'' :: escapeChar '"' (Char.ofNat b.toNat) ++ ['\''])

/-- **Octet quoting:** a quote and a backslash get a backslash, printable ASCII and DEL stand
for themselves, every other byte is `\xHH`. -/
def quoteOctets (bs : Bytes) : String :=
  let body := bs.flatMap fun b =>
    if b < 0x20 || 0x80 ≤ b then '\\' :: 'x' :: hexDigits 2 b.toNat
    else if b = 0x22 || b = 0x5C then ['\\', Char.ofNat b.toNat]
    else [Char.ofNat b.toNat]
  String.ofList ('"' :: body ++ ['"'])

end Inventory.Text

import Inventory.Text.Base64
/-!
# Encoded words in mail headers

An encoded word (RFC 2047) carries text in another character set inside a header:
`=?charset?encoding?text?=`. It has at least eight characters and exactly four `?`; the
encoding is one letter, `B` for base64 or `Q` for quoted-printable with `_` for a space (either
case), and the charset is not empty.

A word that is not well formed, or whose text does not decode, is ordinary text. A word that
decodes is read in its charset: UTF-8, ISO-8859-1 and US-ASCII (in any letter case) are known,
and any other charset makes the word unreadable, which is an error of the header it stands in.
-/

set_option autoImplicit false

namespace Inventory.Mail

/-- What reading a word gives. -/
inductive WordReading where
  /-- Ordinary text, not an encoded word or one that does not decode. -/
  | plain
  /-- An encoded word in a known charset. -/
  | decoded
  /-- An encoded word in a charset that cannot be read. -/
  | unknownCharset
  deriving DecidableEq, Repr

/-- A hexadecimal digit, in either case. -/
def isHexDigit (c : Char) : Bool :=
  c.isDigit || ('A' ≤ c && c ≤ 'F') || ('a' ≤ c && c ≤ 'f')

/-- Quoted-printable text decodes: `=` is followed by two hexadecimal digits, and every other
character is `_`, printable ASCII, a tab or a line end. -/
def qDecodes : List Char → Bool
  | [] => true
  | '=' :: a :: b :: rest => isHexDigit a && isHexDigit b && qDecodes rest
  | '=' :: _ => false
  | c :: rest => (c == '\t' || c == '\n' || c == '\r' || (' ' ≤ c && c ≤ '~')) && qDecodes rest

/-- The text decodes in the encoding named by a letter. -/
def textDecodes (encoding : Char) (text : List Char) : Bool :=
  match encoding with
  | 'B' | 'b' => (Base64.decode? (String.ofList text)).isSome
  | 'Q' | 'q' => qDecodes text
  | _ => false

/-- The charsets read without help. -/
def knownCharsets : List String := ["utf-8", "iso-8859-1", "us-ascii"]

/-- Split at the first `?`. -/
def cutQuestion (s : List Char) : List Char × List Char :=
  (s.takeWhile (· != '?'), (s.dropWhile (· != '?')).drop 1)

/-- **Reading a word** that may be encoded. -/
def readWord (w : List Char) : WordReading :=
  let wellFormed := w.length ≥ 8 && w.take 2 == ['=', '?'] && w.drop (w.length - 2) == ['?', '='] &&
    w.count '?' == 4
  if !wellFormed then .plain
  else
    let inner := (w.drop 2).take (w.length - 4)
    let (charset, afterCharset) := cutQuestion inner
    let (encoding, text) := cutQuestion afterCharset
    if charset.isEmpty then .plain
    else
      match encoding with
      | [e] =>
        if !textDecodes e text then .plain
        else if knownCharsets.contains (String.ofList (charset.map Char.toLower)) then .decoded
        else .unknownCharset
      | _ => .plain

end Inventory.Mail

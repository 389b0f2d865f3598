import Inventory.Document.Basic
/-!
# Reading a document

`Document.parse` reads bytes that must hold exactly one JSON object, between blanks. Members
are read in order; each key is decoded (escapes resolved, stray bytes and lone surrogates
replaced), each value is kept as its exact bytes with stray bytes repaired (`Utf8.repair`),
and `setRaw` files it, so a repeated key keeps its first position and takes its last value.

Refusals are classified, in this order of checks:

* `empty`: nothing but blanks;
* `notObject`: the first value is complete and is not an object (an array, or a string,
  number or literal that reads without error);
* `notJson`: the object, or the first value, is malformed; the cause is the reader's error;
* `trailingData`: after the object comes something other than blanks. When that is the start
  of a well-formed value (an opening bracket, or a whole literal) there is no cause; otherwise
  the cause says what is wrong with it.

A number literal too large for a double counts as malformed where a value is read whole
(before the object and after it), never inside the object.
-/

set_option autoImplicit false

namespace Inventory

open Json

/-- The kinds of refusal of a document text. -/
inductive ParseFailure where
  | empty
  | notObject
  | notJson
  | trailingData
  deriving DecidableEq, Repr

/-- The wording of a refusal. -/
def ParseFailure.text : ParseFailure → String
  | .empty => "probe output is empty"
  | .notObject => "probe output is not a JSON object"
  | .notJson => "probe output is not valid JSON"
  | .trailingData => "unexpected data after JSON object"

/-- A refused document text: the kind, and the reader's error when there is one. -/
structure ParseError where
  failure : ParseFailure
  cause : Option JsonError := none
  deriving DecidableEq, Repr

/-- The message of a refused document text. -/
def ParseError.message (e : ParseError) : String :=
  "parse error: " ++ e.failure.text ++
    match e.cause with
    | some c => ": " ++ c.message
    | none => ""

/-- The bytes from the first non-blank one. -/
def skipBlanks (bs : Bytes) : Bytes := bs.dropWhile isBlank

theorem length_skipBlanks_le (bs : Bytes) : (skipBlanks bs).length ≤ bs.length := by
  unfold skipBlanks
  induction bs with
  | nil => simp
  | cons b rest ih =>
    simp only [List.dropWhile_cons]
    split
    · simp only [List.length_cons]; omega
    · simp

/-- A whole value read as a Go value would be: numbers beyond a double are refused. -/
def readScalar (bs : Bytes) : Except JsonError Unit :=
  match Value.decodeFirst bs with
  | .error e => .error e
  | .ok (.number lit, _) =>
    if (Decimal.ofLiteral lit).exceedsDouble then .error (.numberRange lit) else .ok ()
  | .ok _ => .ok ()

/-- Where the member loop stands: before the first member or after one. -/
inductive MemberPos where
  | first
  | next
  deriving DecidableEq, Repr

/-- A malformed member start: the byte, placed as the loop's position says. -/
def memberPosError (pos : MemberPos) (c : UInt8) : JsonError :=
  match pos with
  | .first => .invalidChar c none
  | .next => .invalidChar c (some .afterMember)

/-- The bytes where the next key's literal starts, or why there is no key there. `c :: tail`
are the bytes from the first non-blank one. -/
def keyStart (pos : MemberPos) (c : UInt8) (tail : Bytes) : Except JsonError Bytes :=
  match pos with
  | .first => if c == 0x22 then .ok (c :: tail) else .error (.invalidChar c none)
  | .next =>
    if c == 0x2C then
      match skipBlanks tail with
      | [] => .error .eof
      | d :: more => if d == 0x22 then .ok (d :: more) else .error (.invalidChar d (some .beginKey))
    else .error (.invalidChar c (some .afterMember))

theorem keyStart_length {pos : MemberPos} {c : UInt8} {tail ks : Bytes}
    (h : keyStart pos c tail = .ok ks) : ks.length ≤ tail.length + 1 := by
  unfold keyStart at h
  split at h
  · split at h
    · cases h; simp
    · cases h
  · split at h
    · split at h
      · cases h
      · rename_i d more hs
        split at h
        · cases h
          have := length_skipBlanks_le tail
          rw [hs] at this
          simp only [List.length_cons] at this ⊢
          omega
        · cases h
    · cases h

/-- **The members of the object**, from just after `{` (or after a member) to just after `}`;
the document so far and the bytes after the closing brace. -/
def readMembers (doc : Document) (pos : MemberPos) (rest : Bytes) :
    Except JsonError (Document × Bytes) :=
  match _hs : skipBlanks rest with
  | [] => .error .eof
  | c :: tail =>
    if c == 0x7D then .ok (doc, tail)
    else if c == 0x5D then .error (memberPosError pos c)
    else
      match _hk : keyStart pos c tail with
      | .error e => .error e
      | .ok ks =>
        match valueLength ks with
        | .error e => .error e
        | .ok k =>
          let key := decodeStringLiteral (ks.take k)
          match _hc : skipBlanks (ks.drop k) with
          | [] => .error .eof
          | d :: rest3 =>
            if d != 0x3A then .error .expectedColon
            else
              match valueLength rest3 with
              | .error e => .error e
              | .ok n =>
                let raw := Utf8.repair (skipBlanks (rest3.take n))
                readMembers (doc.setRaw key raw) .next (rest3.drop n)
termination_by rest.length
decreasing_by
  have h1 := length_skipBlanks_le rest
  have h2 := keyStart_length _hk
  have h3 := length_skipBlanks_le (ks.drop k)
  rw [_hs] at h1
  rw [_hc] at h3
  simp only [List.length_cons, List.length_drop] at h1 h3 ⊢
  omega

/-- What follows the object: blanks only, or the reason it is trailing data. -/
def trailing (bs : Bytes) : Except ParseError Unit :=
  match skipBlanks bs with
  | [] => .ok ()
  | c :: more =>
    if c == 0x5B || c == 0x7B then .error { failure := .trailingData }
    else if c == 0x5D || c == 0x7D || c == 0x3A || c == 0x2C then
      .error { failure := .trailingData, cause := some (.invalidChar c (some .beginValue)) }
    else
      match readScalar (c :: more) with
      | .error e => .error { failure := .trailingData, cause := some e }
      | .ok () => .error { failure := .trailingData }

/-- **Reading a document.** -/
def Document.parse (raw : Bytes) : Except ParseError Document :=
  match skipBlanks raw with
  | [] => .error { failure := .empty }
  | c :: more =>
    if c == 0x7B then
      match readMembers {} .first more with
      | .error e => .error { failure := .notJson, cause := some e }
      | .ok (doc, after) =>
        match trailing after with
        | .error e => .error e
        | .ok () => .ok doc
    else if c == 0x5B then .error { failure := .notObject }
    else if c == 0x5D || c == 0x7D || c == 0x3A || c == 0x2C then
      .error { failure := .notJson, cause := some (.invalidChar c (some .beginValue)) }
    else
      match readScalar (c :: more) with
      | .error e => .error { failure := .notJson, cause := some e }
      | .ok () => .error { failure := .notObject }

end Inventory

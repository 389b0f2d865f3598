import Inventory.Net.Url
import Inventory.Json.Value
/-!
# JSON references and pointers

A schema names other schemas by JSON reference: a URL whose fragment, when it starts with
`/`, is a JSON pointer (`#/definitions/width`). Any other fragment points at the whole
document. Only a reference that is not a URL is refused.

A relative reference is resolved against the reference of the schema it stands in, by the
rules of RFC 3986: a reference with a scheme or authority replaces everything; a path
replaces the last segment of the base path (or all of it, when absolute) and the segments `.`
and `..` are then removed; an empty path keeps the base path and, with no query, the base query.
The base's own fragment never carries over.

A pointer walks a document one token at a time (`~1` standing for `/` and `~0` for `~`): a
token names a member of an object or a decimal index into an array.
-/

set_option autoImplicit false

namespace Inventory.Schema

open Json

/-- A JSON reference. -/
structure Reference where
  url : Url
  deriving Repr, Inhabited

namespace Reference

/-- The text of a reference. -/
def text (r : Reference) : String := r.url.text

/-- **Reading a reference**, refused with the message of a URL that does not read. -/
def parse (s : String) : Except String Reference :=
  match Url.parse s with
  | .error e => .error (Url.errorText e)
  | .ok u => .ok ⟨u⟩

/-- The empty reference, that of a document given as text. -/
def empty : Reference := ⟨{}⟩

/-- The reference without its fragment. -/
def withoutFragment (r : Reference) : Reference :=
  ⟨{ r.url with fragment := [], rawFragment := [] }⟩

/-- The tokens of the reference's pointer, still escaped; none unless the fragment starts
with a slash. -/
def tokens (r : Reference) : List String :=
  match r.url.fragment with
  | 0x2F :: rest => (Utf8.decode rest).splitOn "/"
  | _ => []

/-- The reference names a document it can be loaded from: a file by absolute path, or a URL
with a scheme and a host. -/
def isCanonical (r : Reference) : Bool :=
  (r.url.scheme == Utf8.ofString "file" && r.url.path.head? == some 0x2F) ||
    (!r.url.scheme.isEmpty && !r.url.host.isEmpty)

end Reference

/-- The path segments of `full` with `.` and `..` removed. -/
def removeDots (full : String) : String :=
  if full.isEmpty then ""
  else
    let elems := full.splitOn "/"
    let step := fun (acc : String × Bool) (elem : String) =>
      let (dst, first) := acc
      if elem == "." then (dst, false)
      else if elem == ".." then
        let str := (dst.drop 1).toString
        match (str.toList.reverse.idxOf? '/') with
        | some j => ("/" ++ String.ofList (str.toList.take (str.length - 1 - j)), false)
        | none => ("/", true)
      else ((if first then dst else dst ++ "/") ++ elem, false)
    let (dst, _) := elems.foldl step ("/", true)
    let last := elems.getLast?.getD ""
    let dst := if last == "." || last == ".." then dst ++ "/" else dst
    if dst.length > 1 && dst.toList[1]? == some '/' then (dst.drop 1).toString else dst

/-- A reference path resolved against a base path. -/
def resolvePath (base ref : String) : String :=
  let full :=
    if ref.isEmpty then base
    else if ref.startsWith "/" then ref
    else
      match base.toList.reverse.idxOf? '/' with
      | some j => String.ofList (base.toList.take (base.length - j)) ++ ref
      | none => ref
  removeDots full

/-- Set a URL's path from its escaped form. -/
def setPath (u : Url) (p : String) : Url := (Url.withPath u (Utf8.ofString p)).toOption.getD u

/-- **Resolving a URL reference** against a base URL. -/
def resolveUrl (base ref : Url) : Url :=
  let url := if ref.scheme.isEmpty then { ref with scheme := base.scheme } else ref
  if !ref.scheme.isEmpty || !ref.host.isEmpty || ref.user.isSome then
    setPath url (resolvePath (Utf8.decode ref.escapedPath) "")
  else if !ref.rootless.isEmpty then { url with user := none, host := [], path := [], rawPath := [] }
  else
    let url :=
      if ref.path.isEmpty && !ref.forceQuery && ref.rawQuery.isEmpty then
        let url := { url with rawQuery := base.rawQuery, forceQuery := base.forceQuery }
        if ref.fragment.isEmpty then { url with fragment := base.fragment, rawFragment := base.rawFragment }
        else url
      else url
    if ref.path.isEmpty && !base.rootless.isEmpty then
      { url with rootless := base.rootless, user := none, host := [], path := [], rawPath := [] }
    else
      setPath { url with host := base.host, user := base.user }
        (resolvePath (Utf8.decode base.escapedPath) (Utf8.decode ref.escapedPath))

/-- **A reference inherited** from a parent: the child resolved against the parent without
its fragment. -/
def Reference.inherits (parent child : Reference) : Except String Reference :=
  Reference.parse (resolveUrl parent.withoutFragment.url child.url).text

/-! ## Pointers -/

/-- A decimal integer with an optional sign, as array indices are read. -/
def readIndex? (t : String) : Option Int :=
  let (neg, ds) := match t.toList with
    | '-' :: r => (true, r)
    | '+' :: r => (false, r)
    | r => (false, r)
  if ds.isEmpty || !ds.all Char.isDigit then none
  else
    let v := ds.foldl (fun (acc : Nat) d => acc * 10 + (d.toNat - 48)) 0
    if (neg && v > Nat.pow 2 63) || (!neg && v ≥ Nat.pow 2 63) then none
    else some (if neg then -(v : Int) else v)

/-- A pointer token with its escapes undone: `~1` stands for `/` and `~0` for `~`. -/
def unescapeToken (t : String) : String := (t.replace "~1" "/").replace "~0" "~"

/-- **Following a pointer** through a document: an object member by its unescaped name, an
array item by the decimal index the token spells. -/
def follow : List String → Value → Except String Value
  | [], v => .ok v
  | t :: rest, .object ms =>
    match Value.lookup ms (unescapeToken t) with
    | some v => follow rest v
    | none => .error ("Object has no key '" ++ unescapeToken t ++ "'")
  | t :: rest, .array items =>
    match readIndex? t with
    | none => .error ("Invalid array index '" ++ t ++ "'")
    | some i =>
      if i < 0 || i ≥ items.length then
        .error ("Out of bound array[0," ++ toString items.length ++ "] index '" ++ toString i ++ "'")
      else
        match items[i.toNat]? with
        | some v => follow rest v
        | none => .error ("Invalid array index '" ++ t ++ "'")
  | t :: _, _ => .error ("Invalid token reference '" ++ t ++ "'")

end Inventory.Schema

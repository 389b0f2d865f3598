import Inventory.Schema.Node
import Inventory.Schema.Reference
import Inventory.Schema.Canonical
import Inventory.Json.Read
import Inventory.Host.Files
/-!
# Loading a schema

A schema is read from text or from a file and compiled into a table of nodes.

**Documents and references.** Every document read is first scanned: each `$ref` is rewritten
to the absolute reference it denotes, resolved against the nearest enclosing `$id` (or `id`),
and each such identifier registers its sub-document under the identifier's reference. The
whole document is registered under its own reference (the empty one for text). A reference is
then found by its text, or by following its pointer through the document registered under the
reference without the fragment; otherwise it must name a file by absolute path, which is read.
Members that are not schemas (`const`, `enum`, and the maps of `properties`,
`patternProperties` and `dependencies` themselves) are not scanned as schemas.

**The draft.** A document's `$schema`, when a string, names its draft; a root that is neither
an object nor a boolean is refused as `schema is invalid`. Without a known draft the hybrid
draft applies.

**Keywords** are checked in a fixed order, and the first one that is malformed refuses the
whole schema with its message: the identifier, `definitions`, `title`, `description`,
`$ref`, `type`, `properties`, `additionalProperties`, `patternProperties`, `propertyNames`,
`dependencies`, `items`, `additionalItems`, `multipleOf`, `minimum`, `exclusiveMinimum`,
`maximum`, `exclusiveMaximum`, `minLength`, `maxLength`, `pattern`, `format`,
`minProperties`, `maxProperties`, `required`, `minItems`, `maxItems`, `uniqueItems`,
`contains`, `const`, `enum`, `oneOf`, `anyOf`, `allOf`, `not`, `if`, `then`, `else`.
A `$ref` that names a schema not compiled yet compiles that schema and ends the node: its other
keywords are neither checked nor kept. A reference already being compiled is shared, so
recursive schemas become cycles in the table.
-/

set_option autoImplicit false

namespace Inventory.Schema

open Json

/-- A registered document and the draft it declares. -/
structure Pooled where
  doc : Value
  draft : Option Draft
  deriving Repr

/-- What loading carries: the nodes so far, the nodes by the reference that named them, the
registered documents, and the files references may name. -/
structure Loader where
  nodes : Array Node := #[]
  refs : List (String × Nat) := []
  pool : List (String × Pooled) := []
  files : Files

/-- A loading step. -/
abbrev Load := StateT Loader (Except String)

/-- The first entry under a key. -/
def lookupIn {α : Type} (table : List (String × α)) (key : String) : Option α :=
  (table.find? (·.1 == key)).map (·.2)

/-! ## Messages -/

/-- A keyword of the wrong kind. -/
def invalidType (expected given : String) : String :=
  "Invalid type. Expected: " ++ expected ++ ", given: " ++ given

/-- A value that is not a schema. -/
def notSchema : String := "Expected: valid schema, given: Invalid JSON"

/-- `x must be of a y`. -/
def mustBeOfA (x y : String) : String := x ++ " must be of a " ++ y

/-- `x must be of an y`. -/
def mustBeOfAn (x y : String) : String := x ++ " must be of an " ++ y

/-! ## Documents -/

/-- **The draft a document declares**; refused when the root is not a schema or `$schema` is
not a string reference. -/
def declaredDraft (doc : Value) : Except String (Option Draft) :=
  match doc with
  | .bool _ => .ok none
  | .object m =>
    match Value.lookup m "$schema" with
    | none => .ok none
    | some (.string s) =>
      match Reference.parse s with
      | .ok r => .ok (Draft.ofUrl? r.text)
      | .error e => .error e
    | some _ => .error "$schema must be of type string"
  | _ => .error "schema is invalid"

/-- Keys whose values are maps of schemas rather than schemas. -/
def schemaMaps : List String := ["properties", "dependencies", "patternProperties"]

/-- The reference a `$ref` text denotes in scope, or the text itself when it is not one. -/
def rewriteRef (scope : Reference) (x : Value) : Value :=
  match x with
  | .string s =>
    match Reference.parse s with
    | .ok r =>
      match scope.inherits r with
      | .ok a => .string a.text
      | .error _ => x
    | .error _ => x
  | _ => x

/-- The scope an object opens: its identifier resolved against the enclosing scope, when it
has one that reads as a reference. -/
def openedScope (base : Reference) (m : List (String × Value)) : Option Reference :=
  let key := if (Value.lookup m "id").isSome then "id" else "$id"
  match Value.lookup m key with
  | some (.string s) =>
    match Reference.parse s with
    | .ok r => (base.inherits r).toOption
    | .error _ => none
  | _ => none

mutual

/-- **Scanning a document**: `$ref`s rewritten against the identifier in scope, and the
documents the identifiers name, the enclosing one before those inside it. -/
def scan (base : Reference) : Value → Value × List (String × Value)
  | .array items =>
    let (items', found) := scanItems base items
    (.array items', found)
  | .object m =>
    let scope := openedScope base m
    let inner := scope.getD base
    let (m', found) := scanMembers inner m
    let self := Value.object m'
    match scope with
    | some r => (self, (r.text, self) :: found)
    | none => (self, found)
  | v => (v, [])

/-- Scanning the items of an array. -/
def scanItems (base : Reference) : List Value → List Value × List (String × Value)
  | [] => ([], [])
  | v :: rest =>
    let (v', a) := scan base v
    let (rest', b) := scanItems base rest
    (v' :: rest', a ++ b)

/-- Scanning the members of an object: `$ref` rewritten, literal values skipped, maps of
schemas entered. -/
def scanMembers (base : Reference) : List (String × Value) → List (String × Value) × List (String × Value)
  | [] => ([], [])
  | (k, v) :: rest =>
    let (v', a) :=
      if k == "$ref" then (rewriteRef base v, [])
      else if k == "const" || k == "enum" then (v, [])
      else if schemaMaps.contains k then scanMap base v
      else scan base v
    let (rest', b) := scanMembers base rest
    ((k, v') :: rest', a ++ b)

/-- Scanning a map of schemas: each value is a schema; anything else is left alone. -/
def scanMap (base : Reference) : Value → Value × List (String × Value)
  | .object cs =>
    let (cs', found) := scanEntries base cs
    (.object cs', found)
  | v => (v, [])

/-- Scanning the entries of a map of schemas. -/
def scanEntries (base : Reference) : List (String × Value) → List (String × Value) × List (String × Value)
  | [] => ([], [])
  | (k, v) :: rest =>
    let (v', a) := scan base v
    let (rest', b) := scanEntries base rest
    ((k, v') :: rest', a ++ b)

end

/-- How deep compiling may go. -/
def depthLimit : Nat := 100000

/-- Add the documents a scan found, refused at the first identifier already registered. -/
def addFound (draft : Option Draft) (pool : List (String × Pooled)) :
    List (String × Value) → Except String (List (String × Pooled))
  | [] => .ok pool
  | (k, d) :: rest =>
    if (lookupIn pool k).isSome then .error ("Reference already exists: \"" ++ k ++ "\"")
    else addFound draft (pool ++ [(k, ⟨d, draft⟩)]) rest

/-- **Registering a document** under a reference: refused when the reference is taken, the
document declares no readable draft, or two identifiers name the same reference. The scanned
document is returned. -/
def register (pool : List (String × Pooled)) (doc : Value) (ref : Reference) :
    Except String (Value × List (String × Pooled)) := do
  let key := ref.text
  if (lookupIn pool key).isSome then .error ("Reference already exists: \"" ++ key ++ "\"")
  else
    let draft ← declaredDraft doc
    let (doc', found) := scan ref doc
    let pool ← addFound draft pool found
    .ok (doc', pool ++ [(key, ⟨doc', draft⟩)])

/-- Registering a fetched document as far as it goes: nothing when it declares no readable
draft, otherwise the identifiers up to the first repeated one, and the document itself. -/
def registerFetched (pool : List (String × Pooled)) (doc : Value) (ref : Reference) :
    Value × List (String × Pooled) :=
  match declaredDraft doc with
  | .error _ => (doc, pool)
  | .ok draft =>
    let (doc', found) := scan ref doc
    let kept := found.foldl (fun (acc : List (String × Pooled) × Bool) (k, d) =>
      let (p, stopped) := acc
      if stopped then acc
      else if (lookupIn p k).isSome then (p, true)
      else (p ++ [(k, ⟨d, draft⟩)], false)) (pool, false)
    (doc', (kept.1.filter (·.1 != ref.text)) ++ [(ref.text, ⟨doc', draft⟩)])

/-- Read the first JSON value of a text, objects as maps. -/
def decodeDocument (bs : Bytes) : Except String Value :=
  match Value.decodeFirst bs with
  | .ok (v, _) => .ok (asMap v)
  | .error e => .error e.message

/-- Decode `%XX` escapes and `+` as a query component does. -/
def queryUnescape : List Char → Except String (List Char)
  | [] => .ok []
  | '%' :: a :: b :: rest =>
    match Regex.hexValue? a, Regex.hexValue? b with
    | some x, some y => do .ok (Char.ofNat (x * 16 + y) :: (← queryUnescape rest))
    | _, _ => .error ("invalid URL escape " ++ Text.quote (String.ofList ('%' :: a :: [b])))
  | '%' :: rest => .error ("invalid URL escape " ++ Text.quote (String.ofList ('%' :: rest.take 2)))
  | '+' :: rest => do .ok (' ' :: (← queryUnescape rest))
  | c :: rest => do .ok (c :: (← queryUnescape rest))

/-- **Fetching a document** a canonical reference names. Files are read from the host; no
other host is reachable. -/
def fetch (files : Files) (ref : Reference) : Except String Value := do
  let url := ref.withoutFragment
  let text := url.text
  if url.url.scheme == Utf8.ofString "file" then
    let name ← queryUnescape (text.drop 7).toString.toList
    match files.read "/" (String.ofList name) with
    | .ok bs => decodeDocument bs
    | .error e => .error e.message
  else
    let scheme := Utf8.decode url.url.scheme
    if scheme == "http" || scheme == "https" then
      .error ("Get " ++ Text.quote text ++ ": dial tcp: lookup " ++ Utf8.decode url.url.hostname ++
        ": no such host")
    else .error ("Get " ++ Text.quote text ++ ": unsupported protocol scheme " ++ Text.quote scheme)

/-- Lift a check. -/
def check {α : Type} (r : Except String α) : Load α :=
  match r with
  | .ok a => pure a
  | .error e => throw e

/-- **The document a reference names**, with its declared draft. -/
def document (ref : Reference) : Load Pooled := do
  let st ← get
  let key := ref.text
  match lookupIn st.pool key with
  | some p => pure p
  | none =>
    match lookupIn st.pool ref.withoutFragment.text with
    | some cached =>
      match follow ref.tokens cached.doc with
      | .ok d =>
        let p : Pooled := ⟨d, cached.draft⟩
        set { st with pool := st.pool ++ [(key, p)] }
        pure p
      | .error e => throw e
    | none =>
      if !ref.isCanonical then throw ("Reference " ++ key ++ " must be canonical")
      else
        let doc ← check (fetch st.files ref)
        let (doc, pool) := registerFetched st.pool doc ref.withoutFragment
        set { st with pool }
        let draft := (declaredDraft doc).toOption.join
        match follow ref.tokens doc with
        | .ok d => pure ⟨d, draft⟩
        | .error e => throw e

/-! ## Keyword values -/

/-- A number keyword's exact value. -/
def numberValue? (v : Value) : Option Rat :=
  match v with
  | .number lit => (Decimal.ofLiteral lit).toRat?
  | _ => none

/-- An integer keyword's value: an integral number written as a plain 64-bit integer. -/
def integerValue? (v : Value) : Option Int :=
  match v with
  | .number lit =>
    match (Decimal.ofLiteral lit).toRat? with
    | some q =>
      if q.den != 1 then none
      else
        let ds := match lit.toList with
          | '-' :: r => r
          | r => r
        if ds.all Char.isDigit && q.num ≥ -(Int.pow 2 63) && q.num < Int.pow 2 63 then some q.num else none
    | none => none
  | _ => none

/-- A count keyword: an integer at least zero. -/
def countValue (key : String) (v : Value) : Except String Nat :=
  match integerValue? v with
  | none => .error (mustBeOfAn key "integer")
  | some n => if n < 0 then .error (key ++ " must be greater than or equal to 0") else .ok n.toNat

/-- An optional count keyword. -/
def optionalCount (m : List (String × Value)) (key : String) : Except String (Option Nat) :=
  match Value.lookup m key with
  | none => .ok none
  | some v => (countValue key v).map some

/-- Least and greatest counts, the least not above the greatest. -/
def countPair (m : List (String × Value)) (lo hi : String) : Except String (Option Nat × Option Nat) := do
  let a ← optionalCount m lo
  let b ← optionalCount m hi
  match a, b with
  | some x, some y => if x > y then .error (lo ++ " cannot be greater than " ++ hi) else .ok (a, b)
  | _, _ => .ok (a, b)

/-- Add a type name to those read so far. -/
def addType (acc : List String) (t : Value) : Except String (List String) :=
  match t with
  | .string t =>
    if !typeNames.contains t then
      .error ("has a primitive type that is NOT VALID -- given: /" ++ t ++
        "/ Expected valid values are:[" ++ " ".intercalate typeNames ++ "]")
    else if acc.contains t then .error (t ++ " type is duplicated")
    else .ok (acc ++ [t])
  | _ => .error (invalidType "string/array of strings" "type")

/-- **The types** a `type` keyword admits, read in order. -/
def typeList (v : Value) : Except String (List String) :=
  match v with
  | .string _ => addType [] v
  | .array items => items.foldlM addType []
  | _ => .error (invalidType "string/array of strings" "type")

/-- Add a required name to those read so far. -/
def addRequired (acc : List String) (x : Value) : Except String (List String) :=
  match x with
  | .string s => if acc.contains s then .error "required items must be unique" else .ok (acc ++ [s])
  | _ => .error "required items must be string"

/-- The `required` names: distinct strings. -/
def requiredNames (v : Value) : Except String (List String) :=
  match v with
  | .array items => items.foldlM addRequired []
  | _ => .error (mustBeOfAn "required" "array")

/-- Add an `enum` item's canonical text to those read so far. -/
def addEnumText (acc : List String) (x : Value) : Except String (List String) := do
  let t ← canonicalText x
  if acc.contains t then .error "enum items must be unique" else .ok (acc ++ [t])

/-- The canonical texts of `enum`, distinct. -/
def enumTexts (v : Value) : Except String (List String) :=
  match v with
  | .array items => items.foldlM addEnumText []
  | _ => .error (mustBeOfAn "enum" "array")

/-- A compiled pattern, or `none` when it is not a valid pattern. -/
def compilePattern (text : String) : Option Pattern :=
  (Regex.parse text).toOption.map fun n => ⟨text, n⟩

/-! ## Compiling -/

/-- A new node. -/
def alloc : Load Nat :=
  modifyGet fun st => (st.nodes.size, { st with nodes := st.nodes.push {} })

/-- Store a node. -/
def store (i : Nat) (n : Node) : Load Unit :=
  modify fun st => { st with nodes := st.nodes.setIfInBounds i n }

/-- A value that is a schema: an object, or a boolean. -/
def isSchemaValue : Value → Bool
  | .object _ => true
  | .bool _ => true
  | _ => false

/-- What compiles a sub-schema, in a draft, into a given node. -/
abbrev Compiler := Draft → Value → Nat → Load Unit

/-- A sub-schema compiled into a new node. -/
def child (sub : Compiler) (draft : Draft) (doc : Value) : Load Nat := do
  let i ← alloc
  sub draft doc i
  pure i

/-- Sub-schemas of an array, in order. -/
def children (sub : Compiler) (draft : Draft) : List Value → Load (List Nat)
  | [] => pure []
  | v :: rest => do
    let i ← child sub draft v
    let is ← children sub draft rest
    pure (i :: is)

/-- Sub-schemas of a map, in order, with their keys. -/
def namedChildren (sub : Compiler) (draft : Draft) : List (String × Value) → Load (List (String × Nat))
  | [] => pure []
  | (k, v) :: rest => do
    let i ← child sub draft v
    let is ← namedChildren sub draft rest
    pure ((k, i) :: is)

/-- A sub-schema keyword whose value must be a schema. -/
def schemaKeyword (sub : Compiler) (draft : Draft) (m : List (String × Value)) (key message : String) :
    Load (Option Nat) :=
  match Value.lookup m key with
  | none => pure none
  | some v => if isSchemaValue v then do pure (some (← child sub draft v)) else throw message

/-- `additionalProperties` or `additionalItems`: a boolean or a schema. -/
def extraKeyword (sub : Compiler) (draft : Draft) (m : List (String × Value)) (key : String) : Load Extra :=
  match Value.lookup m key with
  | none => pure .unset
  | some (.bool b) => pure (.allowed b)
  | some (.object o) => do pure (.schema (← child sub draft (.object o)))
  | some _ => throw (invalidType "boolean/valid schema" key)

/-- Sub-schemas of a list keyword (`oneOf`, `anyOf`, `allOf`). -/
def listKeyword (sub : Compiler) (draft : Draft) (m : List (String × Value)) (key : String) :
    Load (List Nat) :=
  match Value.lookup m key with
  | none => pure []
  | some (.array items) => children sub draft items
  | some _ => throw (mustBeOfAn key "array")

/-- The `dependencies` of a node. -/
def dependencyKeyword (sub : Compiler) (draft : Draft) :
    List (String × Value) → Load (List (String × Dependency))
  | [] => pure []
  | (k, v) :: rest => do
    let here ← match v with
      | .array items =>
        if items.all fun | .string _ => true | _ => false then
          let names := items.filterMap fun | .string s => some s | _ => none
          pure (if names.isEmpty then [] else [(k, Dependency.members names)])
        else throw "dependency must be of type schema or array of strings"
      | .object _ | .bool _ => do pure [(k, Dependency.schema (← child sub draft v))]
      | _ => throw "dependency must be of type schema or array of strings"
    let more ← dependencyKeyword sub draft rest
    pure (here ++ more)

/-- **The keywords of a schema object.** -/
def keywords (sub : Compiler) (draft : Draft) (m : List (String × Value)) : Load Node := do
  let idKey := match draft with
    | .draft4 => "id"
    | .hybrid => if (Value.lookup m "id").isSome then "id" else "$id"
    | _ => "$id"
  match Value.lookup m idKey with
  | some (.string s) =>
    match Reference.parse s with
    | .ok _ => pure ()
    | .error e => throw e
  | some _ => throw (invalidType "string" idKey)
  | none => pure ()
  match Value.lookup m "definitions" with
  | some (.object defs) =>
    for (_, d) in defs do
      if isSchemaValue d then discard (child sub draft d)
      else throw (invalidType "array of schemas" "definitions")
  | some (.bool _) => pure ()
  | some _ => throw (invalidType "array of schemas" "definitions")
  | none => pure ()
  for key in ["title", "description"] do
    match Value.lookup m key with
    | some (.string _) => pure ()
    | some _ => throw (invalidType "string" key)
    | none => pure ()
  let mut n : Node := {}
  match Value.lookup m "$ref" with
  | some (.string s) =>
    let r ← check (Reference.parse s)
    let st ← get
    match lookupIn st.refs r.text with
    | some i => n := { n with ref := some i }
    | none =>
      let i ← alloc
      modify fun st => { st with refs := st.refs ++ [(r.text, i)] }
      let target ← document r
      if !isSchemaValue target.doc then throw "valid schema must be of type object"
      sub (target.draft.getD draft) target.doc i
      return { ref := some i }
  | some _ => throw (invalidType "string" "$ref")
  | none => pure ()
  if let some t := Value.lookup m "type" then
    n := { n with types := ← check (typeList t) }
  match Value.lookup m "properties" with
  | some (.object ps) => n := { n with properties := ← namedChildren sub draft ps }
  | some _ => throw (invalidType "properties" "properties")
  | none => pure ()
  n := { n with additionalProperties := ← extraKeyword sub draft m "additionalProperties" }
  match Value.lookup m "patternProperties" with
  | some (.object ps) =>
    let mut found : List (Pattern × Nat) := []
    for (k, v) in ps do
      match compilePattern k with
      | none => throw ("Invalid regex pattern '" ++ k ++ "'")
      | some p => found := found ++ [(p, ← child sub draft v)]
    n := { n with patternProperties := found }
  | some _ => throw (invalidType "valid schema" "patternProperties")
  | none => pure ()
  if draft.rank ≥ 6 then
    let names ← schemaKeyword sub draft m "propertyNames" (invalidType "valid schema" "patternProperties")
    n := { n with propertyNames := names }
  match Value.lookup m "dependencies" with
  | some (.object ds) => n := { n with dependencies := ← dependencyKeyword sub draft ds }
  | some _ => throw (invalidType "object" "dependencies")
  | none => pure ()
  match Value.lookup m "items" with
  | some (.array items) =>
    if items.all isSchemaValue then n := { n with items := .positional (← children sub draft items) }
    else throw (invalidType "valid schema/array of schemas" "items")
  | some (.object o) => n := { n with items := .single (← child sub draft (.object o)) }
  | some (.bool b) => n := { n with items := .single (← child sub draft (.bool b)) }
  | some _ => throw (invalidType "valid schema/array of schemas" "items")
  | none => pure ()
  n := { n with additionalItems := ← extraKeyword sub draft m "additionalItems" }
  if let some v := Value.lookup m "multipleOf" then
    match numberValue? v with
    | none => throw (invalidType "number" "multipleOf")
    | some q => if q ≤ 0 then throw "multipleOf must be strictly greater than 0" else n := { n with multipleOf := some q }
  for (bound, exclusive) in [("minimum", "exclusiveMinimum"), ("maximum", "exclusiveMaximum")] do
    let mut limit : Option Rat := none
    let mut strict : Option Rat := none
    if let some v := Value.lookup m bound then
      match numberValue? v with
      | none => throw (mustBeOfA bound "number")
      | some q => limit := some q
    if let some v := Value.lookup m exclusive then
      match draft, v with
      | .draft4, .bool b =>
        match limit with
        | none => throw (exclusive ++ " cannot be used without " ++ bound)
        | some q => if b then strict := some q; limit := none
      | .draft4, _ => throw (invalidType "boolean" exclusive)
      | .hybrid, .bool b =>
        match limit with
        | none => throw (exclusive ++ " cannot be used without " ++ bound)
        | some q => if b then strict := some q; limit := none
      | .hybrid, .number _ => strict := numberValue? v
      | .hybrid, _ => throw (invalidType "boolean/number" exclusive)
      | _, .number _ => strict := numberValue? v
      | _, _ => throw (invalidType "number" exclusive)
    if bound == "minimum" then n := { n with minimum := limit, exclusiveMinimum := strict }
    else n := { n with maximum := limit, exclusiveMaximum := strict }
  let (minLength, maxLength) ← check (countPair m "minLength" "maxLength")
  n := { n with minLength, maxLength }
  match Value.lookup m "pattern" with
  | some (.string p) =>
    match compilePattern p with
    | some c => n := { n with pattern := some c }
    | none => throw "pattern must be a valid regex"
  | some _ => throw (mustBeOfA "pattern" "string")
  | none => pure ()
  match Value.lookup m "format" with
  | some (.string f) => n := { n with format := f }
  | some _ => throw "format must be of type string"
  | none => pure ()
  let (minProperties, maxProperties) ← check (countPair m "minProperties" "maxProperties")
  n := { n with minProperties, maxProperties }
  if let some v := Value.lookup m "required" then
    n := { n with required := ← check (requiredNames v) }
  let (minItems, maxItems) ← check (countPair m "minItems" "maxItems")
  n := { n with minItems, maxItems }
  match Value.lookup m "uniqueItems" with
  | some (.bool b) => n := { n with uniqueItems := b }
  | some _ => throw (mustBeOfA "uniqueItems" "boolean")
  | none => pure ()
  if draft.rank ≥ 6 then
    if let some v := Value.lookup m "contains" then
      n := { n with contains := some (← child sub draft v) }
    if let some v := Value.lookup m "const" then
      n := { n with const := some (← check (canonicalText v)) }
  if let some v := Value.lookup m "enum" then
    n := { n with enum := ← check (enumTexts v) }
  n := { n with oneOf := ← listKeyword sub draft m "oneOf" }
  n := { n with anyOf := ← listKeyword sub draft m "anyOf" }
  n := { n with allOf := ← listKeyword sub draft m "allOf" }
  n := { n with not := ← schemaKeyword sub draft m "not" (mustBeOfAn "not" "object") }
  if draft.rank ≥ 7 then
    n := { n with ifSchema := ← schemaKeyword sub draft m "if" (mustBeOfAn "if" "object") }
    n := { n with thenSchema := ← schemaKeyword sub draft m "then" (mustBeOfAn "then" "object") }
    n := { n with elseSchema := ← schemaKeyword sub draft m "else" (mustBeOfAn "else" "object") }
  pure n

/-- **Compiling a schema** into the node at `i`, sub-schemas nested at most `fuel` deep. -/
def compileInto : Nat → Compiler
  | 0, _, _, _ => throw "schema is nested too deeply"
  | fuel + 1, draft, doc, i =>
    match doc with
    | .bool b => if draft.rank ≥ 6 then store i { pass := some b } else throw notSchema
    | .object m => do store i (← keywords (compileInto fuel) draft m)
    | _ => throw notSchema

/-! ## Sources -/

/-- Where a schema comes from. -/
inductive Source where
  /-- Schema text given directly. -/
  | text (bytes : Bytes)
  /-- A file, by absolute path. -/
  | file (path : String)

/-- **Compiling a schema** from its source, files read from `files`. -/
def compile (files : Files) (src : Source) : Except String Compiled := do
  let run : Load Nat := do
    let doc ← match src with
      | .text bs => do
        let doc ← check (decodeDocument bs)
        let st ← get
        let (doc, pool) ← check (register st.pool doc Reference.empty)
        set { st with pool }
        pure doc
      | .file path => do
        let r ← check (Reference.parse ("file://" ++ path))
        pure (← document r).doc
    let draft ← check (declaredDraft doc)
    let root ← alloc
    compileInto depthLimit (draft.getD .hybrid) doc root
    pure root
  let (root, st) ← run.run { files }
  pure { nodes := st.nodes, root }

end Inventory.Schema

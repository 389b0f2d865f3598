import Inventory.Schema.Node
import Inventory.Schema.Canonical
import Inventory.Schema.Format
import Inventory.Regex.Match
/-!
# Validating a document against a compiled schema

Validation walks the document and the schema together and collects **issues**: a message and
the place in the document it concerns, the dotted path of member names and item indices from
the root (`(root)` for the root itself).

Beside its issues, every check earns a **score**, which only decides which failing
alternative is reported when none of `anyOf`, `oneOf` or the items tried by `contains`
passes: the one with the highest score, the first of equals. Each issue costs two, each
completed check earns one, and a required member that is present earns one, as does a member
some pattern of `patternProperties` matches. A check of the wrong type ends at once and earns
nothing.

A node checks a value in this order: a boolean schema decides alone; a reference hands the
value to the schema it names; a `type` the value does not have is the only issue; otherwise the
combinators (`anyOf`, `oneOf`, `allOf`, `not`, `dependencies`, `if`) run, then the checks of
the value's own kind, then `const` and `enum`, and last, for objects, the `properties`.

Numbers compare exactly: a document number and a schema bound are both read as rationals, and
a number is an integer when its value is whole, so `1.0` is an integer. Values compare for
`const`, `enum` and `uniqueItems` by their canonical text. String lengths count characters.
-/

set_option autoImplicit false

namespace Inventory.Schema

open Json

/-- A problem found in a document: where, and what. -/
structure Issue where
  field : String
  message : String
  deriving Repr, DecidableEq

/-- What checking found: the issues, and the score that ranks failing alternatives. -/
structure Outcome where
  issues : List Issue := []
  score : Int := 0
  deriving Repr

namespace Outcome

/-- Nothing found, nothing earned. -/
def none : Outcome := {}

/-- Two outcomes together: issues in order, scores added. -/
def merge (a b : Outcome) : Outcome := ⟨a.issues ++ b.issues, a.score + b.score⟩

instance : Append Outcome := ⟨merge⟩

/-- No issue was found. -/
def valid (o : Outcome) : Bool := o.issues.isEmpty

/-- A completed check: one point. -/
def tick : Outcome := { score := 1 }

end Outcome

/-- A place in a document, innermost step first. -/
abbrev Path := List String

/-- The field a place is reported as: its steps joined by dots, or `(root)`. -/
def fieldOf : Path → String
  | [] => "(root)"
  | steps => ".".intercalate steps.reverse

/-- One issue at a place; it costs two. -/
def issue (path : Path) (message : String) : Outcome :=
  { issues := [⟨fieldOf path, message⟩], score := -2 }

/-- Every outcome of a list, together. -/
def mergeAll (os : List Outcome) : Outcome := os.foldl (· ++ ·) Outcome.none

/-- Checking a value at a place against the node with a given index. -/
abbrev Check := Nat → Value → Path → Outcome

/-- The first failing outcome with the highest score, among those found so far and `o`. -/
def better (best : Option Outcome) (o : Outcome) : Option Outcome :=
  match best with
  | some b => if o.score > b.score then some o else some b
  | none => some o

/-! ## The combinators -/

/-- `anyOf`: the alternatives are tried in order until one passes; if none does, the issue and
the best failure's issues. -/
def checkAnyOf (sub : Check) (alts : List Nat) (v : Value) (path : Path) : Outcome :=
  if alts.isEmpty then Outcome.none
  else
    let rec go : List Nat → Option Outcome → Outcome
      | [], best => issue path "Must validate at least one schema (anyOf)" ++ best.getD Outcome.none
      | a :: rest, best =>
        let o := sub a v path
        if o.valid then Outcome.none else go rest (better best o)
    go alts none

/-- `oneOf`: every alternative is tried; exactly one must pass. When none does, the best of the
failures is reported too. -/
def checkOneOf (sub : Check) (alts : List Nat) (v : Value) (path : Path) : Outcome :=
  if alts.isEmpty then Outcome.none
  else
    let (passed, best) := alts.foldl (fun (acc : Nat × Option Outcome) a =>
      let (passed, best) := acc
      let o := sub a v path
      if o.valid then (passed + 1, best)
      else if passed == 0 then (passed, better best o) else (passed, best)) (0, none)
    if passed == 1 then Outcome.none
    else
      issue path "Must validate one and only one schema (oneOf)" ++
        (if passed == 0 then best.getD Outcome.none else Outcome.none)

/-- `allOf`: every alternative's findings, and an issue unless all pass. -/
def checkAllOf (sub : Check) (alts : List Nat) (v : Value) (path : Path) : Outcome :=
  let os := alts.map fun a => sub a v path
  mergeAll os ++
    (if os.all Outcome.valid then Outcome.none else issue path "Must validate all the schemas (allOf)")

/-- `dependencies`: for each member of an object that has one, the members it needs, or the
schema the whole object must then pass. -/
def checkDependencies (sub : Check) (deps : List (String × Dependency)) (v : Value) (path : Path) :
    Outcome :=
  match v with
  | .object ms =>
    mergeAll <| ms.map fun (k, _) =>
      match deps.find? (·.1 == k) with
      | some (_, .members names) =>
        mergeAll <| names.filterMap fun d =>
          if (Value.lookup ms d).isSome then Option.none else some (issue path ("Has a dependency on " ++ d))
      | some (_, .schema j) => sub j v path
      | Option.none => Outcome.none
  | _ => Outcome.none

/-- `if`, `then` and `else`. -/
def checkCondition (sub : Check) (n : Node) (v : Value) (path : Path) : Outcome :=
  match n.ifSchema with
  | Option.none => Outcome.none
  | some i =>
    let cond := sub i v path
    let thenPart := match n.thenSchema with
      | some t =>
        if cond.valid then
          let o := sub t v path
          if o.valid then Outcome.none
          else issue path "Must validate \"then\" as \"if\" was valid" ++ o
        else Outcome.none
      | Option.none => Outcome.none
    let elsePart := match n.elseSchema with
      | some e =>
        if !cond.valid then
          let o := sub e v path
          if o.valid then Outcome.none
          else issue path "Must validate \"else\" as \"if\" was not valid" ++ o
        else Outcome.none
      | Option.none => Outcome.none
    thenPart ++ elsePart

/-- **The combinators** of a node, then one point. -/
def checkCombinators (sub : Check) (n : Node) (v : Value) (path : Path) : Outcome :=
  checkAnyOf sub n.anyOf v path ++
  checkOneOf sub n.oneOf v path ++
  checkAllOf sub n.allOf v path ++
  (match n.not with
    | some j => if (sub j v path).valid then issue path "Must not validate the schema (not)" else Outcome.none
    | Option.none => Outcome.none) ++
  checkDependencies sub n.dependencies v path ++
  checkCondition sub n v path ++
  Outcome.tick

/-! ## Checks by kind -/

/-- **Numbers**: `multipleOf`, the bounds, `format`, then one point. A number too large to
read is not compared. -/
def checkNumber (n : Node) (q : Option Rat) (path : Path) : Outcome :=
  let fails (cond : Bool) (message : String) := if cond then issue path message else Outcome.none
  (match q with
    | Option.none => Outcome.none
    | some x =>
      (match n.multipleOf with
        | some m => fails ((x / m).den != 1) ("Must be a multiple of " ++ generalText m)
        | Option.none => Outcome.none) ++
      (match n.maximum with
        | some m => fails (x > m) ("Must be less than or equal to " ++ generalText m)
        | Option.none => Outcome.none) ++
      (match n.exclusiveMaximum with
        | some m => fails (x ≥ m) ("Must be less than " ++ generalText m)
        | Option.none => Outcome.none) ++
      (match n.minimum with
        | some m => fails (x < m) ("Must be greater than or equal to " ++ generalText m)
        | Option.none => Outcome.none) ++
      (match n.exclusiveMinimum with
        | some m => fails (x ≤ m) ("Must be greater than " ++ generalText m)
        | Option.none => Outcome.none)) ++
  fails (!n.format.isEmpty && !numberConforms n.format) ("Does not match format '" ++ n.format ++ "'") ++
  Outcome.tick

/-- **Strings**: the length bounds, `pattern` and `format`, then one point. -/
def checkString (n : Node) (s : String) (path : Path) : Outcome :=
  let len := s.length
  (match n.minLength with
    | some m => if len < m then issue path ("String length must be greater than or equal to " ++ toString m) else Outcome.none
    | Option.none => Outcome.none) ++
  (match n.maxLength with
    | some m => if len > m then issue path ("String length must be less than or equal to " ++ toString m) else Outcome.none
    | Option.none => Outcome.none) ++
  (match n.pattern with
    | some p => if p.node.found s then Outcome.none else issue path ("Does not match pattern '" ++ p.text ++ "'")
    | Option.none => Outcome.none) ++
  (if n.format.isEmpty || conforms n.format s then Outcome.none
    else issue path ("Does not match format '" ++ n.format ++ "'")) ++
  Outcome.tick

/-- **`const` and `enum`**, by canonical text, then one point. -/
def checkCommon (n : Node) (v : Value) (path : Path) : Outcome :=
  let text := (canonicalText v).toOption
  (match n.const with
    | some c =>
      if text == some c then Outcome.none else issue path (fieldOf path ++ " does not match: " ++ c)
    | Option.none => Outcome.none) ++
  (if n.enum.isEmpty || text.any n.enum.contains then Outcome.none
    else issue path (fieldOf path ++ " must be one of the following: " ++ ", ".intercalate n.enum)) ++
  Outcome.tick

/-- The repeated items of an array: for each item whose canonical text an earlier item had,
the index of the latest such item and its own. -/
def repeats (items : List Value) : List (Nat × Nat) :=
  let step := fun (acc : List (String × Nat) × List (Nat × Nat)) (iv : Nat × Value) =>
    let (seen, found) := acc
    let (j, v) := iv
    match (canonicalText v).toOption with
    | Option.none => acc
    | some t =>
      let found := match seen.find? (·.1 == t) with
        | some (_, i) => found ++ [(i, j)]
        | Option.none => found
      ((t, j) :: seen.filter (·.1 != t), found)
  (items.zipIdx.map (fun (v, i) => (i, v)) |>.foldl step ([], [])).2

/-- `contains`: the items are tried in order until one passes; if none does, the issue and the
best failure's issues. -/
def checkContains (sub : Check) (j : Nat) (items : List Value) (path : Path) : Outcome :=
  let rec go : List (Value × Nat) → Option Outcome → Outcome
    | [], best => issue path "At least one of the items must match" ++ best.getD Outcome.none
    | (v, i) :: rest, best =>
      let o := sub j v (toString i :: path)
      if o.valid then Outcome.none else go rest (better best o)
  go items.zipIdx none

/-- **Arrays**: `items` and `additionalItems`, the count bounds, `uniqueItems` and `contains`,
then one point. -/
def checkArray (sub : Check) (n : Node) (items : List Value) (path : Path) : Outcome :=
  let count := items.length
  let place (i : Nat) := toString i :: path
  (match n.items with
    | .single j => mergeAll (items.zipIdx.map fun (v, i) => sub j v (place i))
    | .positional [] => Outcome.none
    | .positional js =>
      mergeAll ((items.zip js).zipIdx.map fun ((v, j), i) => sub j v (place i)) ++
      (if js.length < count then
        match n.additionalItems with
        | .allowed false => issue path "No additional items allowed on array"
        | .schema k => mergeAll ((items.zipIdx.drop js.length).map fun (v, i) => sub k v (place i))
        | _ => Outcome.none
      else Outcome.none)
    | .unset => Outcome.none) ++
  (match n.minItems with
    | some m => if count < m then issue path ("Array must have at least " ++ toString m ++ " items") else Outcome.none
    | Option.none => Outcome.none) ++
  (match n.maxItems with
    | some m => if count > m then issue path ("Array must have at most " ++ toString m ++ " items") else Outcome.none
    | Option.none => Outcome.none) ++
  (if n.uniqueItems then
    mergeAll ((repeats items).map fun (i, j) =>
      issue path ("array items[" ++ toString i ++ "," ++ toString j ++ "] must be unique"))
  else Outcome.none) ++
  (match n.contains with
    | some j => checkContains sub j items path
    | Option.none => Outcome.none) ++
  Outcome.tick

/-- The members `patternProperties` matches: each matching pattern's findings, and a point if
any matched; `none` if none did. -/
def checkPatterns (sub : Check) (n : Node) (k : String) (v : Value) (path : Path) : Option Outcome :=
  let hits := n.patternProperties.filter fun (p, _) => p.node.found k
  if hits.isEmpty then Option.none
  else some (mergeAll (hits.map fun (_, j) => sub j v (k :: path)) ++ Outcome.tick)

/-- **Objects**: the count bounds, `required`, `patternProperties` and `additionalProperties`,
and `propertyNames`, then one point. -/
def checkObject (sub : Check) (n : Node) (ms : List (String × Value)) (path : Path) : Outcome :=
  let count := ms.length
  (match n.minProperties with
    | some m => if count < m then issue path ("Must have at least " ++ toString m ++ " properties") else Outcome.none
    | Option.none => Outcome.none) ++
  (match n.maxProperties with
    | some m => if count > m then issue path ("Must have at most " ++ toString m ++ " properties") else Outcome.none
    | Option.none => Outcome.none) ++
  mergeAll (n.required.map fun r =>
    if (Value.lookup ms r).isSome then Outcome.tick else issue path (r ++ " is required")) ++
  mergeAll (ms.map fun (k, v) =>
    let named := n.properties.any (·.1 == k)
    match checkPatterns sub n k v path with
    | some o => o
    | Option.none =>
      if named then Outcome.none
      else match n.additionalProperties with
        | .allowed false => issue path ("Additional property " ++ k ++ " is not allowed")
        | .schema j => sub j v (k :: path)
        | _ => Outcome.none) ++
  (match n.propertyNames with
    | some j => mergeAll (ms.map fun (k, _) =>
      let o := sub j (.string k) path
      if o.valid then Outcome.none else issue path ("Property name of \"" ++ k ++ "\" does not match") ++ o)
    | Option.none => Outcome.none) ++
  Outcome.tick

/-! ## Walking the document -/

/-- The kind a value is given as when its type does not fit. -/
def givenType : Value → String
  | .null => "null"
  | .bool _ => "boolean"
  | .number lit =>
    if ((Decimal.ofLiteral lit).toRat?.map (·.den == 1)).getD false then "integer" else "number"
  | .string _ => "string"
  | .array _ => "array"
  | .object _ => "object"

/-- Whether a node's `type` admits a value. -/
def admits (n : Node) (v : Value) : Bool :=
  n.types.isEmpty ||
    match v with
    | .number _ => n.types.contains "number" || (givenType v == "integer" && n.types.contains "integer")
    | _ => n.types.contains (givenType v)

/-- **Checking a value against a node** at a place, references followed at most `fuel` deep. -/
def visit (s : Compiled) : Nat → Check
  | 0, _, _, _ => Outcome.none
  | fuel + 1, i, v, path =>
    let n := s.node i
    let sub := visit s fuel
    match n.pass with
    | some true => Outcome.none
    | some false => issue path "False always fails validation"
    | Option.none =>
      match n.ref with
      | some j => visit s fuel j v path
      | Option.none =>
        if !admits n v then
          issue path ("Invalid type. Expected: " ++ n.typeText ++ ", given: " ++ givenType v)
        else
          let own := match v with
            | .null => Outcome.none
            | .number lit => checkNumber n (Decimal.ofLiteral lit).toRat? path
            | .string str => checkString n str path
            | .bool _ => Outcome.none
            | .array items => checkArray sub n items path
            | .object ms => checkObject sub n ms path
          let members := match v with
            | .object ms => mergeAll (n.properties.filterMap fun (k, j) =>
                (Value.lookup ms k).map fun x => sub j x (k :: path))
            | _ => Outcome.none
          checkCombinators sub n v path ++ own ++ checkCommon n v path ++ members ++ Outcome.tick

/-- How deep validation may go. -/
def validationDepth : Nat := 100000

/-- **The issues of a document** under a schema. -/
def Compiled.validate (s : Compiled) (doc : Value) : List Issue :=
  (visit s validationDepth s.root doc []).issues

end Inventory.Schema

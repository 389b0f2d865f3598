import Inventory.Regex.Syntax
/-!
# Compiled schemas

A schema compiles to a table of nodes; a node names its sub-schemas by their place in the
table, so that a reference may point back to a schema that contains it. A node holds what its
keywords say, already checked: the types it admits, the sub-schemas of objects and arrays,
numeric bounds as exact rationals, length and count bounds, compiled patterns, and the
canonical texts of `const` and `enum`.

The draft of the schema language decides what some keywords mean. `hybrid`, used when a
schema names no known draft, accepts the forms of all drafts.
-/

set_option autoImplicit false

namespace Inventory.Schema

/-- A draft of the schema language. -/
inductive Draft where
  | draft4
  | draft6
  | draft7
  | hybrid
  deriving DecidableEq, Repr

/-- The order of drafts: later drafts accept more. -/
def Draft.rank : Draft → Nat
  | .draft4 => 4
  | .draft6 => 6
  | .draft7 => 7
  | .hybrid => 1000

/-- The draft a meta-schema URL names. -/
def Draft.ofUrl? (url : String) : Option Draft :=
  match url with
  | "http://json-schema.org/draft-04/schema" => some .draft4
  | "http://json-schema.org/draft-06/schema" => some .draft6
  | "http://json-schema.org/draft-07/schema" => some .draft7
  | _ => none

/-- The type names, in the order messages list them. -/
def typeNames : List String := ["array", "boolean", "integer", "number", "null", "object", "string"]

/-- What a node says about members or items beyond those it names. -/
inductive Extra where
  | unset
  | allowed (b : Bool)
  | schema (n : Nat)
  deriving DecidableEq, Repr

/-- What a node says about the items of arrays. -/
inductive Items where
  | unset
  | single (n : Nat)
  | positional (ns : List Nat)
  deriving DecidableEq, Repr

/-- A dependency of a member: other members that must be present, or a schema the object
must satisfy. -/
inductive Dependency where
  | members (names : List String)
  | schema (n : Nat)
  deriving DecidableEq, Repr

/-- A compiled pattern with its text. -/
structure Pattern where
  text : String
  node : Regex.Node
  deriving Repr

/-- **A node** of a compiled schema. -/
structure Node where
  /-- A boolean schema: everything passes, or nothing does. -/
  pass : Option Bool := none
  /-- The schema a reference stands for; the node's own keywords are then not checked. -/
  ref : Option Nat := none
  types : List String := []
  properties : List (String × Nat) := []
  additionalProperties : Extra := .unset
  patternProperties : List (Pattern × Nat) := []
  propertyNames : Option Nat := none
  dependencies : List (String × Dependency) := []
  items : Items := .unset
  additionalItems : Extra := .unset
  multipleOf : Option Rat := none
  minimum : Option Rat := none
  /-- A bound the value must exceed. -/
  exclusiveMinimum : Option Rat := none
  maximum : Option Rat := none
  /-- A bound the value must stay below. -/
  exclusiveMaximum : Option Rat := none
  minLength : Option Nat := none
  maxLength : Option Nat := none
  pattern : Option Pattern := none
  format : String := ""
  minProperties : Option Nat := none
  maxProperties : Option Nat := none
  required : List String := []
  minItems : Option Nat := none
  maxItems : Option Nat := none
  uniqueItems : Bool := false
  contains : Option Nat := none
  const : Option String := none
  enum : List String := []
  anyOf : List Nat := []
  oneOf : List Nat := []
  allOf : List Nat := []
  not : Option Nat := none
  ifSchema : Option Nat := none
  thenSchema : Option Nat := none
  elseSchema : Option Nat := none
  deriving Repr, Inhabited

/-- The types a node admits, as messages name them: one name, or a bracketed list. -/
def Node.typeText (n : Node) : String :=
  match n.types with
  | [] => "undefined"
  | [t] => t
  | ts => "[" ++ ",".intercalate ts ++ "]"

/-- A compiled schema: its nodes and the root's place among them. -/
structure Compiled where
  nodes : Array Node
  root : Nat
  deriving Repr

/-- The node at a place. -/
def Compiled.node (s : Compiled) (i : Nat) : Node := s.nodes.getD i {}

end Inventory.Schema

import SheetCompiler.Literal

/-!
# Document trees

A document is a tree of scalars, sequences and mappings, any of them with a tag. Documents are kept
as YAML text, but the tree does not depend on how it is spelled: a scalar that was read carries its
spelling and whether it stood bare, and a scalar made from a value carries the value.
-/

namespace SheetCompiler.Document

/-- How the spelling of a scalar stands in a text. Only a plain scalar can mean anything else than
its characters. -/
inductive Style where
  | plain
  | literal
  | quoted
deriving DecidableEq, Inhabited

/-- A scalar. -/
inductive Scalar where
  | spelled (style : Style) (text : String)
  | integer (i : Int)
  | number (x : Float)
  | boolean (b : Bool)
deriving Inhabited

/-- The characters of a scalar. -/
def Scalar.text : Scalar → String
  | spelled _ text => text
  | integer i => integerText i
  | number x => Decimal.NumberStyle.document.write x
  | boolean b => if b then "true" else "false"

/-- A tag. -/
inductive Tag where
  /-- `!name`, which selects an alternative. -/
  | named (name : String)
  /-- `!` before percent escapes that do not spell a text. It selects nothing. -/
  | nameless
  /-- `!!name`, which names a kind of scalar. -/
  | core (name : String)
  /-- Any other tag; it has no meaning here. -/
  | foreign (uri : String)
deriving DecidableEq, Inhabited

/-- A document tree. -/
inductive Node where
  | scalar (tag : Option Tag) (value : Scalar)
  | sequence (tag : Option Tag) (items : List Node)
  | mapping (tag : Option Tag) (entries : List (Node × Node))
  /-- A reference to a node that stands elsewhere. -/
  | reference (target : Node)
  /-- A reference to a node from inside that node. -/
  | cyclic
deriving Inhabited

namespace Node

/-- A text. -/
def text (s : String) : Node :=
  .scalar none (.spelled .quoted s)

/-- The tag of a node. -/
def tag? : Node → Option Tag
  | scalar tag _ | sequence tag _ | mapping tag _ => tag
  | reference _ | cyclic => none

/-- The node under another tag. -/
def withTag (tag : Option Tag) : Node → Node
  | scalar _ value => scalar tag value
  | sequence _ items => sequence tag items
  | mapping _ entries => mapping tag entries
  | reference target => reference target
  | cyclic => cyclic

/-- The node as the alternative of the given name. -/
def named (name : String) (node : Node) : Node :=
  node.withTag (some (.named name))

/-- A mapping from field names. -/
def record (fields : List (String × Node)) : Node :=
  .mapping none (fields.map fun (name, node) => (text name, node))

end Node

end SheetCompiler.Document

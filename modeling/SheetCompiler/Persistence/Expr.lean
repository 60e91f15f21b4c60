import SheetCompiler.Document.Schema
import SheetCompiler.Formula.Expr

/-!
# Formulas as documents

A literal is a record of its `type` and its `value`, an address is its text, and every other kind of
expression is a record under the tag of its kind.
-/

namespace SheetCompiler

open Document (Node Fields Decoder)

/-- The address as a document. -/
def Address.toNode (address : Address) : Node :=
  .text address.text

/-- The address of a document; it names its sheet. -/
def Address.ofNode (node : Node) : Decoder Address := do
  let text ← node.asText
  match Address.parseFull? text with
  | some address => return address
  | none => throw (.invalidAddress text)

namespace Literal

/-- The literal as a document. -/
def toNode : Literal → Node
  | integer i => .record [("type", .text "integer"), ("value", .scalar none (.integer i.toInt))]
  | number x => .record [("type", .text "number"), ("value", .scalar none (.number x))]
  | text s => .record [("type", .text "text"), ("value", .text s)]
  | boolean b => .record [("type", .text "boolean"), ("value", .scalar none (.boolean b))]

/-- The literal of the given type at a node. -/
def ofTyped (kind : String) (node : Node) : Decoder Literal :=
  match kind with
  | "integer" => return .integer (← node.asInteger)
  | "number" => return .number (← node.asNumber)
  | "text" => return .text (← node.asText)
  | "boolean" => return .boolean (← node.asBoolean)
  | _ => throw (.unknownAlternative kind)

/-- The literal of the given type at a node that was read before its type was known: what it means
by itself has to fit. An integer fits a number, and one beyond 64 bits fits nothing. -/
def ofUntyped (kind : String) (node : Node) : Decoder Literal := do
  match ← Decoder.follow node with
  | .scalar tag value =>
    match kind, ← value.reading tag with
    | "integer", .integer i => return .integer (← Document.toInt64 i)
    | "number", .integer i =>
      if Int64.minValue.toInt ≤ i && i < UInt64.size then return .number (Float.ofInt i)
      else throw (.expected "a number")
    | "number", .number x => return .number x
    | "text", .text s => return .text s
    | "boolean", .boolean b => return .boolean b
    | _, _ => throw (.expected kind)
  | _ => throw (.expected kind)

/-- The literal of a record. Its type may stand on either side of its value. -/
def ofFields (fields : Fields) : Decoder Literal := do
  let kind ← (← Fields.get fields "type").asName
  let value ← Fields.get fields "value"
  if fields.find? (fun (name, _) => name == "type" || name == "value") |>.any (·.1 == "type") then
    ofTyped kind value
  else
    ofUntyped kind value

/-- The literal of a document. -/
def ofNode (node : Node) : Decoder Literal :=
  node.asRecord ofFields

end Literal

namespace Formula

/-- The operator between two operands that a document names by its sign. -/
def BinaryOp.ofNode (node : Node) : Decoder BinaryOp := do
  let sign ← node.asName
  match BinaryOp.all.find? (·.sign.text == sign) with
  | some op => return op
  | none => throw (.unknownAlternative sign)

/-- The operator on one operand that a document names by its sign. -/
def UnaryOp.ofNode (node : Node) : Decoder UnaryOp := do
  let sign ← node.asName
  match UnaryOp.all.find? (·.sign.text == sign) with
  | some op => return op
  | none => throw (.unknownAlternative sign)

mutual

/-- The expression as a document. -/
def Expr.toNode : Expr → Node
  | .literal value => value.toNode.named "literal"
  | .cell address => address.toNode.named "cell_reference"
  | .range first last =>
    (Node.record [("start", first.toNode), ("end", last.toNode)]).named "range_reference"
  | .binary op left right =>
    (Node.record [("op", .text op.sign.text), ("left", left.toNode), ("right", right.toNode)]).named
      "binary_op"
  | .unary op operand =>
    (Node.record [("op", .text op.sign.text), ("operand", operand.toNode)]).named "unary_op"
  | .call name args =>
    (Node.record [("name", .text name), ("args", .sequence none (nodesOf args))]).named
      "function_call"

/-- Several expressions as documents. -/
def nodesOf : List Expr → List Node
  | [] => []
  | e :: rest => e.toNode :: nodesOf rest

end

/-- A field of an expression: its node, and what the node is as an expression and as a list of
them. -/
structure Part where
  node : Node
  expr : Decoder Expr
  exprs : Decoder (List Expr)

/-- The expression of the given kind with the given fields. -/
def Expr.ofParts (kind : String) (parts : List (String × Part)) : Decoder Expr :=
  match kind with
  | "literal" =>
      return .literal (← Literal.ofFields (parts.map fun (name, part) => (name, part.node)))
  | "range_reference" => do
    let first ← Address.ofNode (← Fields.get parts "start").node
    let last ← Address.ofNode (← Fields.get parts "end").node
    return .range first last
  | "binary_op" => do
    let op ← BinaryOp.ofNode (← Fields.get parts "op").node
    let left ← (← Fields.get parts "left").expr
    let right ← (← Fields.get parts "right").expr
    return .binary op left right
  | "unary_op" => do
    let op ← UnaryOp.ofNode (← Fields.get parts "op").node
    let operand ← (← Fields.get parts "operand").expr
    return .unary op operand
  | "function_call" => do
    let name ← (← Fields.get parts "name").node.asText
    let args ← (← Fields.get parts "args").exprs
    return .call name args
  | _ => throw (.unknownAlternative kind)

mutual

/-- The expression of a document. -/
def Expr.ofNode : Node → Decoder Expr
  | .reference target => do
    Decoder.countReference
    Expr.ofNode target
  | .mapping (some (.named kind)) entries =>
    Decoder.nested do Expr.ofParts kind (← partsOf entries)
  | .scalar (some (.named "cell_reference")) value =>
    return .cell (← Address.ofNode (.scalar none value))
  | _ => throw (.expected "an expression")

/-- The expressions of a sequence. -/
def exprsOfNode : Node → Decoder (List Expr)
  | .reference target => do
    Decoder.countReference
    exprsOfNode target
  | .sequence _ items => Decoder.nested (exprsOfItems items)
  | node => if node.isMissing then return [] else throw (.expected "a sequence")

/-- The expressions of the items of a sequence. -/
def exprsOfItems : List Node → Decoder (List Expr)
  | [] => return []
  | item :: rest => do return (← Expr.ofNode item) :: (← exprsOfItems rest)

/-- The fields of an expression. -/
def partsOf : List (Node × Node) → Decoder (List (String × Part))
  | [] => return []
  | (key, value) :: rest => do
    let name ← key.asText
    return (name, ⟨value, Expr.ofNode value, exprsOfNode value⟩) :: (← partsOf rest)

end

end Formula

end SheetCompiler

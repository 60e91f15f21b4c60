import SheetCompiler.Document.Reader
import SheetCompiler.Document.Writer
import SheetCompiler.Entry
import SheetCompiler.Options
import SheetCompiler.Persistence.Expr

/-!
# Workbooks and options as documents

A workbook is kept as a document between extraction and compilation. What a cell lacks is left out.
Unknown fields of a workbook are passed over, but options refuse them, since there they are
mistakes.
-/

namespace SheetCompiler

open Document (Node Fields Decoder)

namespace Content

/-- The content of a cell as a document. -/
def toNode : Content → Node
  | value literal => literal.toNode.named "value"
  | formula text expr => (Node.record [("text", .text text), ("expr", expr.toNode)]).named "formula"

/-- The formula of a record. -/
def formulaOfFields (fields : Fields) : Decoder Content := do
  let text ← (← Fields.get fields "text").asText
  let expr ← Formula.Expr.ofNode (← Fields.get fields "expr")
  return .formula text expr

/-- The content of a cell of a document. -/
def ofNode (node : Node) : Decoder Content := do
  let node ← Decoder.follow node
  match ← node.alternative with
  | "value" => return .value (← Literal.ofNode node)
  | "formula" => node.asRecord formulaOfFields
  | name => throw (.unknownAlternative name)

end Content

/-- A field that is left out when there is no value. -/
def optionalField (name : String) (node : Option Node) : Fields :=
  node.toList.map fun node => (name, node)

namespace Cell

/-- The cell as a document. -/
def toNode (cell : Cell) : Node :=
  .record (("content", cell.content.toNode)
    :: (optionalField "label" (cell.label.map .text)
      ++ optionalField "cached" (cell.cached.map Literal.toNode)))

/-- The cell of a record. -/
def ofFields (fields : Fields) : Decoder Cell := do
  let content ← Content.ofNode (← Fields.get fields "content")
  let label ← Fields.optional Node.asText fields "label"
  let cached ← Fields.optional Literal.ofNode fields "cached"
  return { content, label, cached }

/-- The cell of a document. -/
def ofNode (node : Node) : Decoder Cell :=
  node.asRecord ofFields

end Cell

namespace Workbook

/-- The workbook as a document. -/
def toNode (w : Workbook) : Node :=
  .record [
    ("name", .text w.name),
    ("sheets", .sequence none (w.sheets.map .text)),
    ("cells",
      .mapping none (w.cells.toList.map fun (address, cell) => (address.toNode, cell.toNode)))]

/-- The workbook of a record. Of two cells at one address the later one counts. -/
def ofFields (fields : Fields) : Decoder Workbook := do
  let name ← (← Fields.get fields "name").asText
  let sheets ← (← Fields.get fields "sheets").asItems Node.asText
  let cells ← (← Fields.get fields "cells").asEntries fun entries =>
    entries.mapM fun (key, value) => return (← Address.ofNode key, ← Cell.ofNode value)
  return { name, sheets, cells := .ofList cells }

/-- The workbook of a document. -/
def ofNode (node : Node) : Decoder Workbook :=
  node.asRecord ofFields

/-- The text of the workbook's document. -/
def toText (w : Workbook) : String :=
  w.toNode.toText

/-- The workbook of a document's text. -/
def ofText (text : String) : Except CompileError Workbook :=
  match Document.decodeText ofNode text with
  | .ok w => .ok w
  | .error fault => .error (.malformedDocument fault.message)

end Workbook

namespace Options

/-- The names of the options. -/
def fieldNames : List String :=
  ["class_name", "namespace", "outputs", "inline_values", "include_runtime", "cell"]

/-- The options of a record; what it leaves out keeps its default. -/
def ofFields (fields : Fields) : Decoder Options := do
  for (name, _) in fields do
    if !fieldNames.contains name then throw (.unknownField name)
  let className ← Fields.optional Node.asText fields "class_name"
  let namespaceName ← Fields.optional Node.asText fields "namespace"
  let cell ← Fields.optional Node.asText fields "cell"
  let outputs ← match ← Fields.get? fields "outputs" with
    | some node => node.asItems Node.asText
    | none => pure []
  let inlineValues ← match ← Fields.get? fields "inline_values" with
    | some node => node.asBoolean
    | none => pure false
  let includeRuntime ← match ← Fields.get? fields "include_runtime" with
    | some node => node.asBoolean
    | none => pure true
  return { className, namespaceName, outputs, inlineValues, includeRuntime, cell }

/-- The options of a document. -/
def ofNode (node : Node) : Decoder Options :=
  node.asRecord ofFields

/-- The options of a document's text. -/
def ofText (text : String) : Except CompileError Options :=
  match Document.decodeText ofNode text with
  | .ok options => .ok options
  | .error fault => .error (.malformedDocument fault.message)

end Options

end SheetCompiler

import SheetCompiler.Document.Decoder
import SheetCompiler.Document.Plain

/-!
# The shape of documents

Decoders for nodes of an expected kind. Each fails on a node of another kind, and each takes a
reference for the node that it refers to.
-/

namespace SheetCompiler.Document

open Decoder

/-- The fields of a mapping, in the order in which they stand. -/
abbrev Fields := List (String × Node)

/-- A 64-bit integer. -/
def toInt64 (i : Int) : Except Fault Int64 :=
  if Int64.minValue.toInt ≤ i && i ≤ Int64.maxValue.toInt then .ok (Int64.ofInt i)
  else .error (.expected "an integer of 64 bits")

namespace Node

/-- The characters of any scalar. -/
def asText (node : Node) : Decoder String := do
  match ← follow node with
  | .scalar _ value => return value.text
  | _ => throw (.expected "a string")

/-- The truth value of a plain scalar. -/
def asBoolean (node : Node) : Decoder Bool := do
  match ← follow node with
  | .scalar _ (.boolean b) => return b
  | .scalar tag value =>
    match (value.bare? "bool" tag).bind truth? with
    | some b => return b
    | none => throw (.expected "a boolean")
  | _ => throw (.expected "a boolean")

/-- The integer of a plain scalar. -/
def asInteger (node : Node) : Decoder Int64 := do
  match ← follow node with
  | .scalar _ (.integer i) => toInt64 i
  | .scalar tag value =>
    match (value.bare? "int" tag).bind integer? with
    | some i => toInt64 i
    | none => throw (.expected "an integer")
  | _ => throw (.expected "an integer")

/-- The number of a plain scalar. -/
def asNumber (node : Node) : Decoder Float := do
  match ← follow node with
  | .scalar _ (.number x) => return x
  | .scalar tag value =>
    match (value.bare? "float" tag).bind number? with
    | some x => return x
    | none => throw (.expected "a number")
  | _ => throw (.expected "a number")

/-- A plain scalar without characters, which also stands for an empty collection. -/
def isMissing : Node → Bool
  | .scalar _ (.spelled .plain text) => text.isEmpty
  | _ => false

/-- The node stands for an absent value. -/
def isAbsent : Node → Except Fault Bool
  | .scalar tag (.spelled .plain text) =>
    match tag with
    | none => .ok (text.isEmpty || isNull text)
    | some (.core "null") => if isNull text then .ok true else .error (.expected "null")
    | some _ => .ok false
  | _ => .ok false

/-- An optional value. -/
def asOptional {α : Type} (decode : Node → Decoder α) (node : Node) : Decoder (Option α) := do
  let node ← follow node
  if ← node.isAbsent then return none else return some (← decode node)

/-- The items of a sequence. -/
def asItems {α : Type} (decode : Node → Decoder α) (node : Node) : Decoder (List α) := do
  match ← follow node with
  | .sequence _ items => nested (items.mapM decode)
  | node => if node.isMissing then return [] else throw (.expected "a sequence")

/-- What the entries of a mapping stand for. -/
def asEntries {α : Type} (decode : List (Node × Node) → Decoder α) (node : Node) : Decoder α := do
  match ← follow node with
  | .mapping _ entries => nested (decode entries)
  | node => if node.isMissing then decode [] else throw (.expected "a map")

/-- What the fields of a mapping stand for. -/
def asRecord {α : Type} (decode : Fields → Decoder α) (node : Node) : Decoder α :=
  node.asEntries fun entries => do
    decode (← entries.mapM fun (key, value) => return (← key.asText, value))

/-- The name of the alternative that a node selects by its tag. -/
def alternative (node : Node) : Except Fault String :=
  match node.tag? with
  | some (.named name) => .ok name
  | _ => .error (.expected "a tag that starts with '!'")

/-- One of several names: the characters of a scalar, or its tag when nothing follows. -/
def asName (node : Node) : Decoder String := do
  match ← follow node with
  | .scalar (some (.named name)) (.spelled .plain text) =>
    if text.isEmpty || isNull text then return name else throw (.expected "unit")
  | .scalar (some (.named _)) _ => throw (.expected "unit")
  | .scalar _ value => return value.text
  | _ => throw (.expected "a name")

end Node

/-- The values under a name. -/
def Fields.all {α : Type} (fields : List (String × α)) (name : String) : List α :=
  fields.filterMap fun (key, value) => if key == name then some value else none

/-- The value of a field that may be left out. A field is given once. -/
def Fields.get? {α : Type} (fields : List (String × α)) (name : String) : Except Fault (Option α) :=
  match Fields.all fields name with
  | [] => .ok none
  | [value] => .ok (some value)
  | _ => .error (.repeatedField name)

/-- The value of a field. -/
def Fields.get {α : Type} (fields : List (String × α)) (name : String) : Except Fault α := do
  match ← Fields.get? fields name with
  | some value => return value
  | none => throw (.missingField name)

/-- The value of a field that may be left out or stand for an absent value. -/
def Fields.optional {α : Type} (decode : Node → Decoder α) (fields : Fields) (name : String) :
    Decoder (Option α) := do
  match ← Fields.get? fields name with
  | none => return none
  | some node => node.asOptional decode

end SheetCompiler.Document

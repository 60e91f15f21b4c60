import SheetCompiler.Json
import SheetCompiler.Lowering.Basic
import SheetCompiler.Naming.FirstFree
import SheetCompiler.Naming.Identifier

/-!
# Final names

Every raw name gets a final one. A label such as `Revenue Q1` becomes `revenueQ1`, a cell without a
label is called by its sheet and address, and a name that is reserved or in use gets a number behind
it.
-/

namespace SheetCompiler.Naming

open Lowering (Statement)

/-- From raw to final names. -/
abbrev Mapping := OrderedMap String String

/-- The name of a cell without a label. -/
def unlabelledName (cell : Address) : String :=
  let sheet := camelCase cell.sheet
  (if sheet.isEmpty then "sheet" else sheet) ++ "_" ++ cell.localText

/-- The name that a statement asks for. -/
def wantedName (s : Statement) : String :=
  let labelled := (s.label.map camelCase).getD ""
  if labelled.isEmpty then unlabelledName s.cell else labelled

/-- The first of `limit` candidates that is neither in use nor reserved. -/
def freeName? (base : String) (used reserved : List String) (limit : Nat) : Option String :=
  ((List.range limit).map (candidate base "")).find? fun name =>
    !used.contains name && !reserved.contains name

/-- The mapping with a final name for the raw name of one more statement. -/
def Mapping.extend (reserved : List String) (limit : Nat) (m : Mapping) (s : Statement) :
    Except CompileError Mapping :=
  if m.contains s.raw then .ok m
  else
    match freeName? (wantedName s) m.values reserved limit with
    | some name => .ok (m.insert s.raw name)
    | none => .error (.noValidName s.raw)

/-- Final names for the raw names of all statements, in their order. No final name is a reserved
word or one of `extra`. -/
def assign (extra : List String) (statements : List Statement) : Except CompileError Mapping :=
  let reserved := Code.keywords ++ extra
  -- Room for a name to collide with every reserved one and with those of all other statements.
  let limit := statements.length + reserved.length + 2
  statements.foldlM (Mapping.extend reserved limit) .empty

/-- The mapping as a JSON object, by raw name. -/
def Mapping.json (m : Mapping) : Json :=
  .object (m.toList.map fun (raw, name) => (raw, .text name))

end SheetCompiler.Naming

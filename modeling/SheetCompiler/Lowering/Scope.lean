import SheetCompiler.Lowering.RawName
import SheetCompiler.Lowering.Typed

/-!
# References in generated code

What a formula may refer to: the value cells of the workbook, and the cells whose types are known
because their statements come first.
-/

namespace SheetCompiler.Lowering

open Code (ValueType)

/-- The surroundings in which formulas are lowered. -/
structure Scope where
  workbook : Workbook
  /-- Value cells are replaced by their literals. -/
  inlineValues : Bool
  prefixes : Prefixes

/-- The types of the cells that have a statement. -/
abbrev Types := OrderedMap Address ValueType

/-- The identifier of a cell. -/
def Scope.identifier (scope : Scope) (cell : Address) : Code.Expr :=
  .ident (rawName scope.prefixes cell)

/-- A reference to `target` in the formula of `cell`. -/
def Scope.reference (scope : Scope) (types : Types) (cell target : Address) :
    Except CompileError Typed :=
  match scope.workbook.literal? target with
  | some literal =>
    .ok (if scope.inlineValues then .literal literal
      else ⟨scope.identifier target, .ofLiteral literal⟩)
  | none =>
    match types.get? target with
    | some type => .ok ⟨scope.identifier target, type⟩
    | none =>
      if (scope.workbook.cell? target).isSome then
        .error (.invalidArguments cell (.notComputed target))
      else if scope.inlineValues then
        .ok (.literal (.integer 0))
      else
        .ok ⟨scope.identifier target, .integer⟩

/-- References to the cells between two corners, row by row; none for a cell that does not exist. -/
def Scope.rectangle (scope : Scope) (types : Types) (cell first last : Address) :
    Except CompileError (List (Option Typed)) :=
  (Address.rectangle first last).mapM fun target =>
    if (scope.workbook.cell? target).isSome then
      (scope.reference types cell target).map some
    else
      .ok none

/-- The cells that a lookup function reads, row by row. -/
structure Block where
  cells : List (Option Typed)
  width : Nat

namespace Block

/-- The common type of the cells from column `skip` on, or of all cells when there is no such
column. -/
def elementType (b : Block) (skip : Nat) : ValueType :=
  let skip := if b.width ≤ skip then 0 else skip
  let chosen := (b.cells.mapIdx fun i c => if skip ≤ i % b.width then c else none).filterMap id
  .unifyAll (chosen.map Typed.type)

/-- The cells as an array of one type, blanks being the zero of the type. -/
def typed (b : Block) (type : ValueType) : Code.Expr :=
  .array (.of type) (b.cells.map fun c =>
    match c with
    | some t => t.convert type
    | none => .literal type.zero)

/-- The cells as an array of objects, blanks being null. -/
def objects (b : Block) : Code.Expr :=
  .array .object (b.cells.map fun c =>
    match c with
    | some t => t.expr
    | none => .null)

/-- The width as a literal. -/
def widthLiteral (b : Block) : Code.Expr :=
  .literal (.integer (.ofNat b.width))

end Block

end SheetCompiler.Lowering

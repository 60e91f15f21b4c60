import SheetCompiler.Address.Basic
import SheetCompiler.Formula.Token
import SheetCompiler.Literal

/-!
# Formula expressions

The tree of a formula. Every reference carries its sheet, and function names are in upper case.
-/

namespace SheetCompiler.Formula

/-- An operator between two operands. -/
inductive BinaryOp where
  | add | sub | mul | div | pow | concat | eq | ne | lt | le | gt | ge
deriving DecidableEq

/-- The sign of an operator between two operands. -/
def BinaryOp.sign : BinaryOp → Sign
  | add => .plus
  | sub => .minus
  | mul => .times
  | div => .slash
  | pow => .caret
  | concat => .ampersand
  | eq => .equal
  | ne => .notEqual
  | lt => .less
  | le => .lessEqual
  | gt => .greater
  | ge => .greaterEqual

/-- Every operator between two operands. -/
def BinaryOp.all : List BinaryOp :=
  [.add, .sub, .mul, .div, .pow, .concat, .eq, .ne, .lt, .le, .gt, .ge]

/-- The operator compares its operands. -/
def BinaryOp.isComparison : BinaryOp → Bool
  | eq | ne | lt | le | gt | ge => true
  | _ => false

/-- An operator on one operand: `percent` stands behind it, the others before it. -/
inductive UnaryOp where
  | neg | plus | percent
deriving DecidableEq

/-- The sign of an operator on one operand. -/
def UnaryOp.sign : UnaryOp → Sign
  | neg => .minus
  | plus => .plus
  | percent => .percent

/-- Every operator on one operand. -/
def UnaryOp.all : List UnaryOp :=
  [.neg, .plus, .percent]

/-- A formula. -/
inductive Expr where
  | literal (value : Literal)
  | cell (address : Address)
  /-- The rectangle between two corners. -/
  | range (first last : Address)
  | binary (op : BinaryOp) (left right : Expr)
  | unary (op : UnaryOp) (operand : Expr)
  | call (name : String) (args : List Expr)
deriving BEq, Inhabited

/-- The corners of the rectangle that an expression names: those of a range, or the one cell of a
reference. -/
def Expr.corners? : Expr → Option (Address × Address)
  | .range first last => some (first, last)
  | .cell address => some (address, address)
  | _ => none

mutual

/-- The cells that an expression reads, from left to right, ranges row by row. A cell occurs as
often as it is read. -/
def Expr.references : Expr → List Address
  | .literal _ => []
  | .cell address => [address]
  | .range first last => Address.rectangle first last
  | .binary _ left right => left.references ++ right.references
  | .unary _ operand => operand.references
  | .call _ args => referencesOf args

/-- The cells that a list of expressions reads. -/
def referencesOf : List Expr → List Address
  | [] => []
  | e :: rest => e.references ++ referencesOf rest

end

end SheetCompiler.Formula

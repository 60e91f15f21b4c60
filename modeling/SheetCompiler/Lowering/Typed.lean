import SheetCompiler.Code.Expr
import SheetCompiler.Value

/-!
# Typed expressions

A generated expression with its static type. Every conversion that a spreadsheet makes silently is
made explicit; that of a literal is made at once.
-/

namespace SheetCompiler.Lowering

open Code (ValueType)

/-- A generated expression and its type. -/
structure Typed where
  expr : Code.Expr
  type : ValueType
deriving Inhabited

namespace Typed

/-- A literal with its type. -/
def literal (l : Literal) : Typed :=
  ⟨.literal l, .ofLiteral l⟩

/-- A number. -/
def number (e : Code.Expr) : Typed :=
  ⟨e, .number⟩

/-- A text. -/
def text (e : Code.Expr) : Typed :=
  ⟨e, .text⟩

/-- A truth value. -/
def boolean (e : Code.Expr) : Typed :=
  ⟨e, .boolean⟩

/-- The expression converted to a number. -/
def toNumber (t : Typed) : Code.Expr :=
  match t.type, t.expr with
  | .number, e => e
  | _, .literal (.integer i) => .literal (.number (.ofInt i.toInt))
  | _, .literal (.boolean b) => .literal (.number (if b then 1.0 else 0.0))
  | _, .literal (.text s) =>
    match numberOfText? s with
    | some x => .literal (.number x)
    | none => .support "ToNumber" [.literal (.text s)]
  | .integer, e => .cast .number e
  | _, e => .support "ToNumber" [e]

/-- The expression converted to a text. -/
def toText (t : Typed) : Code.Expr :=
  match t.type, t.expr with
  | .text, e => e
  | _, .literal (.integer i) => .literal (.text (integerText i.toInt))
  | _, .literal (.number x) => .literal (.text (numberText x))
  | _, .literal (.boolean b) => .literal (.text (booleanText b))
  | _, e => .support "ToText" [e]

/-- The expression converted to a truth value. -/
def toBoolean (t : Typed) : Code.Expr :=
  match t.type, t.expr with
  | .boolean, e => e
  | _, .literal (.integer i) => .literal (.boolean (i != 0))
  | _, .literal (.number x) => .literal (.boolean (x != 0.0))
  | _, .literal (.text s) =>
    match booleanOfText? s with
    | some b => .literal (.boolean b)
    | none => .support "ToBool" [.literal (.text s)]
  | _, e => .support "ToBool" [e]

/-- The expression converted to a type. Conversion to an integer is conversion to a number. -/
def convert (t : Typed) (target : ValueType) : Code.Expr :=
  if t.type = target then t.expr
  else
    match target with
    | .number | .integer => t.toNumber
    | .text => t.toText
    | .boolean => t.toBoolean

end Typed

end SheetCompiler.Lowering

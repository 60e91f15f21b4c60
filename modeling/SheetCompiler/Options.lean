/-!
# Compile options
-/

namespace SheetCompiler

/-- What the user may decide about the generated class. -/
structure Options where
  /-- The class name; without one it is derived from the workbook's name. -/
  className : Option String := none
  namespaceName : Option String := none
  /-- The cells that get accessors. Without any, every formula that no other formula reads. -/
  outputs : List String := []
  /-- Value cells are replaced by their literals. -/
  inlineValues : Bool := false
  /-- The support class is written into the same file. -/
  includeRuntime : Bool := true
  /-- A cell to evaluate beside the compilation. -/
  cell : Option String := none
deriving DecidableEq, Inhabited

end SheetCompiler

import SheetCompiler.Dependency.Graph

/-!
# Dependency trees

The tree of a cell shows where its value comes from. It is printed branch after branch. A branch
follows the dependencies until a cell has none, or until a cell comes up that is already on the
branch; that one is marked and not expanded. All branches share one path, which holds the cells of
the branch that is being printed: a cell joins it before its dependencies are printed and leaves it
afterwards.
-/

namespace SheetCompiler.Dependency

/-- Printing with a path of cells. Printing that does not end has no result. -/
abbrev Printer := StateT (List Address) Option

namespace Tree

/-- The indentation of a level. -/
def indentation (level : Nat) : String :=
  String.join (List.replicate level "   ")

/-- The line of a cell, which `describe` puts into words. -/
def line (describe : Address → String) (level : Nat) (cell : Address) : String :=
  indentation level ++ "└─ " ++ describe cell

/-- The line below a cell that is already on the branch. -/
def circularLine (level : Nat) : String :=
  indentation level ++ "   ↻ circular"

end Tree

namespace Graph

/-- Prints the tree of a cell at a level, below the cells of the path. -/
def printTree (g : Graph) (describe : Address → String) (level : Nat) (cell : Address) :
    Printer (List String) := do
  if (← get).contains cell then
    return [Tree.line describe level cell, Tree.circularLine level]
  modify (cell :: ·)
  let below ← (g.dependencies cell).mapM (g |>.printTree describe (level + 1))
  modify (·.erase cell)
  return Tree.line describe level cell :: below.flatten
partial_fixpoint

/-- The lines of the trees of the cells that a cell reads, below that cell. -/
def treeLines (g : Graph) (describe : Address → String) (cell : Address) : List String :=
  match ((g.dependencies cell).mapM (g.printTree describe 1)).run [cell] with
  | some (printed, _) => printed.flatten
  | none => []

end Graph

end SheetCompiler.Dependency

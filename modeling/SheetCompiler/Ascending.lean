/-!
# Ascending lists

The distinct elements of a list in ascending order.
-/

namespace SheetCompiler

variable {α : Type} [Ord α] [DecidableEq α]

/-- The list with runs of equal elements cut down to one. -/
def dropRepeats : List α → List α
  | [] => []
  | [a] => [a]
  | a :: b :: rest => if a = b then dropRepeats (b :: rest) else a :: dropRepeats (b :: rest)

/-- The elements in ascending order. -/
def sorted (l : List α) : List α :=
  l.mergeSort fun a b => (compare a b).isLE

/-- The elements in ascending order, each once. -/
def distinct (l : List α) : List α :=
  dropRepeats (sorted l)

end SheetCompiler

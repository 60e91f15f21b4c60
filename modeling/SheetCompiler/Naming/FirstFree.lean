/-!
# Free names

A wanted name that is taken gets a number behind it: the candidates of a name are tried in order,
and the first free one is used.
-/

namespace SheetCompiler.Naming

/-- The candidates for a name: the name itself, then the name with `2`, `3` and so on behind it,
`joint` standing between. -/
def candidate (base joint : String) : Nat → String
  | 0 => base
  | n + 1 => base ++ joint ++ toString (n + 2)

/-- The first candidate that is not taken. There are more candidates than taken names, so one of the
first of them is free. -/
def firstFree (base joint : String) (taken : List String) : String :=
  let free := fun n => !taken.contains (candidate base joint n)
  candidate base joint (((List.range (taken.length + 1)).find? free).getD 0)

end SheetCompiler.Naming

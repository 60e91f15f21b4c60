/-!
# Paths

A path is a text whose pieces are divided by slashes. Empty pieces and single dots do not count.
-/

namespace SheetCompiler.Path

/-- The pieces of a path, those at the end that do not count left out. -/
def pieces (path : String) : List String :=
  ((path.splitOn "/").reverse.dropWhile fun piece => piece == "" || piece == ".").reverse

/-- The last piece of a path, unless it leads upwards. -/
def fileName? (path : String) : Option String :=
  (pieces path).getLast?.filter (· != "..")

/-- A file name without its extension and the extension. A name that only starts with a dot has
none. -/
def splitName (name : String) : String × Option String :=
  match name.toList.reverse.span (· != '.') with
  | (_, []) | (_, ['.']) => (name, none)
  | (extension, _ :: stem) => (String.ofList stem.reverse, some (String.ofList extension.reverse))

/-- The file name without its extension. -/
def stem? (path : String) : Option String :=
  (fileName? path).map fun name => (splitName name).1

/-- The extension of the file name. -/
def extension? (path : String) : Option String :=
  (fileName? path).bind fun name => (splitName name).2

/-- The path with another extension; a path without a file name stays as it is. -/
def withExtension (path extension : String) : String :=
  match stem? path with
  | none => path
  | some stem => "/".intercalate ((pieces path).dropLast ++ [stem ++ "." ++ extension])

end SheetCompiler.Path

import SheetCompiler.Files.Host
import SheetCompiler.OrderedMap

/-!
# Directories as values

A directory is the map from paths to files below it. Its subdirectories are those that the paths
pass through.
-/

namespace SheetCompiler.Files

/-- A directory with all files below it. -/
structure Directory where
  /-- The files by their paths, without dots and doubled slashes. -/
  files : OrderedMap String File := .empty

namespace Directory

/-- The path of a place. -/
def pathOf (place : List String) : String :=
  "/".intercalate place

/-- The file at a place. -/
def file? (d : Directory) (place : List String) : Option File :=
  d.files.get? (pathOf place)

/-- There is a directory at the place. -/
def isDirectory (d : Directory) (place : List String) : Bool :=
  place.isEmpty || d.files.keys.any fun path =>
    let steps := path.splitOn "/"
    place.length < steps.length && steps.take place.length == place

/-- The place that further steps lead to. Every step starts in a directory. -/
def follow (d : Directory) (place : List String) : List String → Except FileFault (List String)
  | [] => .ok place
  | step :: rest =>
    if step == "" then d.follow place rest
    else if !d.isDirectory place then
      .error (if (d.file? place).isSome then .notDirectory else .notFound)
    else if step == "." then d.follow place rest
    else if step == ".." then d.follow place.dropLast rest
    else d.follow (place ++ [step]) rest

/-- The place that a path names. Nothing outside the directory can be reached. -/
def resolve (d : Directory) (path : String) : Except FileFault (List String) :=
  if path.isEmpty || path.startsWith "/" then .error .notFound else d.follow [] (path.splitOn "/")

/-- The file that a path names. -/
def read (d : Directory) (path : String) : Except FileFault File := do
  let place ← d.resolve path
  if d.isDirectory place then throw .isDirectory
  match d.file? place with
  | none => throw .notFound
  | some file => if path.endsWith "/" then throw .notDirectory else return file

/-- There is a file or a directory at a path. -/
def has (d : Directory) (path : String) : Bool :=
  match d.read path with
  | .ok _ | .error .isDirectory => true
  | .error _ => false

/-- The directory with a text at a path. -/
def write (d : Directory) (path text : String) : Except FileFault Directory := do
  let place ← d.resolve path
  if d.isDirectory place || path.endsWith "/" then throw .isDirectory
  return ⟨d.files.insert (pathOf place) (.text text)⟩

/-- The texts of `d` that `before` does not have. -/
def changes (before d : Directory) : List (String × String) :=
  d.files.toList.filterMap fun (path, file) =>
    match file, before.files.get? path with
    | .text s, some (.text old) => if s == old then none else some (path, s)
    | .text s, _ => some (path, s)
    | _, _ => none

end Directory

/-- A directory and what has been printed so far. -/
structure Desk where
  directory : Directory
  /-- The printed lines, the last one first. -/
  printed : List String := []

namespace Desk

/-- The printed text. -/
def output (desk : Desk) : String :=
  String.join (desk.printed.reverse.map (· ++ "\n"))

/-- The host that works on a desk. -/
def host : Host (StateM Desk) where
  read path := return (← get).directory.read path
  write path text := do
    match (← get).directory.write path text with
    | .ok directory =>
      modify fun desk => { desk with directory }
      return .ok ()
    | .error fault => return .error fault
  exists? path := return (← get).directory.has path
  say line := modify fun desk => { desk with printed := line :: desk.printed }

end Desk

end SheetCompiler.Files

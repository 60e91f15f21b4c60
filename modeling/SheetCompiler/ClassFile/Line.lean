/-!
# Source lines

A source file is a list of lines, each at a depth of nesting. Text is made of it in one place, four
spaces per level, and a line without text has no indentation.
-/

namespace SheetCompiler.ClassFile

/-- A line of source text. -/
structure Line where
  depth : Nat
  text : String
deriving DecidableEq

/-- A line at the outermost level. -/
def line (text : String) : Line :=
  ⟨0, text⟩

/-- A line without text. -/
def blank : Line :=
  line ""

/-- The lines one level deeper. -/
def indented (lines : List Line) : List Line :=
  lines.map fun l => { l with depth := l.depth + 1 }

/-- The lines without a blank one at the end. -/
def dropLastBlank (lines : List Line) : List Line :=
  match lines.getLast? with
  | some l => if l.text.isEmpty then lines.dropLast else lines
  | none => lines

/-- The lines between braces. -/
def braced (body : List Line) : List Line :=
  line "\x7b" :: (indented (dropLastBlank body) ++ [line "\x7d"])

/-- The text of a line. -/
def Line.render (l : Line) : String :=
  if l.text.isEmpty then "\n"
  else String.ofList (List.replicate (4 * l.depth) ' ') ++ l.text ++ "\n"

/-- The text of all lines. -/
def renderLines (lines : List Line) : String :=
  String.join (lines.map Line.render)

end SheetCompiler.ClassFile

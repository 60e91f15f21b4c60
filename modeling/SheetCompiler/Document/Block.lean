import SheetCompiler.Document.Cursor
import SheetCompiler.Document.Fault

/-!
# Block scalars

A literal (`|`) or folded (`>`) scalar takes the lines below it that stand further right. Its header
may fix the indentation and say what becomes of the breaks at the end.
-/

namespace SheetCompiler.Document.Block

/-- What becomes of the line breaks at the end. -/
inductive Chomping where
  | strip
  | clip
  | keep
deriving DecidableEq

/-- What stands behind the indicator of a block scalar. -/
structure Header where
  chomping : Chomping := .clip
  /-- The indentation relative to the parent; zero when it is taken from the text. -/
  indentation : Nat := 0

/-- The sign of a chomping rule. -/
def chomping? : Char → Option Chomping
  | '+' => some .keep
  | '-' => some .strip
  | _ => none

/-- The indentation that a header may give. -/
def indentation? (c : Char) : Option Nat :=
  if '1' ≤ c && c ≤ '9' then some (c.toNat - '0'.toNat) else none

/-- The header at the front of a text and how many characters it has. The two parts come in either
order; a zero is refused by what follows. -/
def header : List Char → Header × Nat
  | x :: y :: _ =>
    match chomping? x, indentation? x with
    | some chomping, _ => match indentation? y with
      | some n => (⟨chomping, n⟩, 2)
      | none => (⟨chomping, 0⟩, 1)
    | none, some n => match chomping? y with
      | some chomping => (⟨chomping, n⟩, 2)
      | none => (⟨.clip, n⟩, 1)
    | none, none => ({}, 0)
  | [x] =>
    match chomping? x, indentation? x with
    | some chomping, _ => (⟨chomping, 0⟩, 1)
    | none, some n => (⟨.clip, n⟩, 1)
    | none, none => ({}, 0)
  | [] => ({}, 0)

/-- The empty lines at the cursor: their breaks, the widest indentation met, and the cursor at the
first line that is not empty. Spaces are indentation up to `indent`, or all of them while that is
zero. -/
def emptyLines (indent : Nat) (breaks : List Char) (widest : Nat) (c : Cursor) :
    Except Fault (List Char × Nat × Cursor) :=
  let spaces := c.rest.takeWhile (· == ' ')
  let width := if indent = 0 then spaces.length else min spaces.length (indent - c.column)
  let next := c.advance width
  let widest := max widest next.column
  if (indent = 0 || next.column < indent) && next.rest.head? == some '\t' then
    .error .tabIndentation
  else match next.takeBreak? with
    | none => .ok (breaks, widest, next)
    | some (b, behind) =>
      if behind.rest.length < c.rest.length then emptyLines indent (breaks ++ [b]) widest behind
      else .ok (breaks, widest, next)
termination_by c.rest.length

/-- The state between two lines of a block scalar. -/
structure Lines where
  text : List Char := []
  /-- The break that ended the last line. -/
  first : List Char := []
  /-- The breaks of the empty lines since. -/
  more : List Char := []
  /-- The last line started with a blank, so that its breaks are kept. -/
  indented : Bool := false
deriving Inhabited

/-- The text up to a further line. In a folded scalar a break between two lines that both start
without a blank becomes a space, or nothing when empty lines follow. -/
def Lines.join (folded indented : Bool) (l : Lines) : List Char :=
  if folded && l.first == ['\n'] && !l.indented && !indented then
    l.text ++ (if l.more.isEmpty then [' '] else []) ++ l.more
  else l.text ++ l.first ++ l.more

/-- The text at the end of the scalar. -/
def Lines.finish (chomping : Chomping) (l : Lines) : List Char :=
  match chomping with
  | .strip => l.text
  | .clip => l.text ++ l.first
  | .keep => l.text ++ l.first ++ l.more

/-- The lines at the given indentation. -/
def lines (folded : Bool) (indent : Nat) (l : Lines) (c : Cursor) :
    Except Fault (Lines × Cursor) := do
  if c.column != indent || c.rest.isEmpty then
    return (l, c)
  let indented := c.rest.head?.any isSpacing
  let (chars, next) := c.takeWhile fun ch => !isBreak ch
  let (first, behind) := match next.takeBreak? with
    | some (b, behind) => ([b], behind)
    | none => ([], next)
  let (more, _, start) ← emptyLines indent [] 0 behind
  let l' : Lines := { text := l.join folded indented ++ chars, first, more, indented }
  if start.rest.length < c.rest.length then lines folded indent l' start else return (l', start)
termination_by c.rest.length

/-- The block scalar whose indicator has just been read, and the cursor behind it. `parent` is the
indentation of the collection around it, below zero if there is none. -/
def scan (folded : Bool) (parent : Int) (c : Cursor) : Except Fault (List Char × Cursor) := do
  let (h, length) := header c.rest
  let next := ((c.advance length).dropWhile isSpacing).skipComment
  let next ← match next.rest, next.takeBreak? with
    | [], _ => pure next
    | _, some (_, behind) => pure behind
    | _, none => throw .blockHeader
  let given := if h.indentation = 0 then 0 else h.indentation + parent.toNat
  let (breaks, widest, start) ← emptyLines given [] 0 next
  let indent := if given = 0 then max (max widest (parent + 1).toNat) 1 else given
  let (l, behind) ← lines folded indent { more := breaks } start
  return (l.finish h.chomping, behind)

end SheetCompiler.Document.Block

import SheetCompiler.Document.Cursor
import SheetCompiler.Document.Fault
import SheetCompiler.Document.Plain

/-!
# Scalars in running text

Plain and quoted scalars may span lines. The blanks around a line break are dropped, a single break
becomes a space, and of several breaks the first is dropped.
-/

namespace SheetCompiler.Document

/-- The blanks and line breaks between two words of a scalar. -/
structure Gap where
  /-- The blanks before the first break. -/
  blanks : List Char := []
  /-- A break was seen, or one was escaped. -/
  broken : Bool := false
  /-- The first break; an escaped one leaves nothing. -/
  first : List Char := []
  /-- The further breaks. -/
  more : List Char := []
deriving Inhabited

namespace Gap

/-- What the gap contributes to the text of the scalar. -/
def text (g : Gap) : List Char :=
  if !g.broken then g.blanks
  else if g.first == ['\n'] then if g.more.isEmpty then [' '] else g.more
  else g.first ++ g.more

/-- The gap with one more blank; those after a break are dropped. -/
def addBlank (g : Gap) (c : Char) : Gap :=
  if g.broken then g else { g with blanks := g.blanks ++ [c] }

/-- The gap with one more break. -/
def addBreak (g : Gap) (c : Char) : Gap :=
  if g.broken then { g with more := g.more ++ [c] }
  else { blanks := [], broken := true, first := [c] }

end Gap

/-- The gap at the cursor and the cursor behind it. After a break, a tab may not stand in a column
before `margin`. -/
def takeGap (margin : Nat) (g : Gap) (c : Cursor) : Except Fault (Gap × Cursor) :=
  match h : c.rest with
  | [] => .ok (g, c)
  | ch :: rest =>
    if isSpacing ch then
      if g.broken && c.column < margin && ch == '\t' then .error .tabIndentation
      else
        have : rest.length < c.rest.length := by simp [h]
        takeGap margin (g.addBlank ch)
          { c with rest := rest, index := c.index + 1, column := c.column + 1 }
    else match c.takeBreak? with
      | none => .ok (g, c)
      | some (b, next) =>
        if next.rest.length < c.rest.length then takeGap margin (g.addBreak b) next else .ok (g, c)
termination_by c.rest.length

namespace Plain

/-- The characters of a plain scalar up to the next blank, break or indicator. Inside brackets a
colon that touches an indicator is ambiguous. -/
def word (flow : Bool) : List Char → Except Fault (List Char)
  | [] => .ok []
  | c :: rest =>
    let indicators := [',', '[', ']', '\x7b', '\x7d']
    if isSpacing c || isBreak c then .ok []
    else if flow && c == ':' && rest.head?.any ('?' :: indicators).contains then
      .error .ambiguousColon
    else if c == ':' && endsWord rest then .ok []
    else if flow && indicators.contains c then .ok []
    else do return c :: (← word flow rest)

/-- The plain scalar that goes on at the cursor, after `acc` and a gap: its text, the cursor behind
it, and whether it ends after a line break. Outside brackets its lines stand at `margin` or further
right. -/
def scan (flow : Bool) (margin : Nat) (acc : List Char) (gap : Gap) (c : Cursor) :
    Except Fault (List Char × Bool × Cursor) := do
  if c.atDocumentMark || c.rest.head? == some '#' then
    return (acc, gap.broken, c)
  let chars ← word flow c.rest
  let acc' := if chars.isEmpty then acc else acc ++ gap.text ++ chars
  let gap' : Gap := if chars.isEmpty then gap else {}
  let next := c.advance chars.length
  if !endsWord next.rest || next.rest.isEmpty then
    return (acc', gap'.broken, next)
  let (g, behind) ← takeGap margin {} next
  if !flow && behind.column < margin then
    return (acc', g.broken, behind)
  if behind.rest.length < c.rest.length then
    scan flow margin acc' g behind
  else
    return (acc', g.broken, behind)
termination_by c.rest.length

end Plain

namespace Quoted

/-- What follows a backslash. -/
inductive Escape where
  | char (c : Char)
  /-- A code point in so many hexadecimal digits. -/
  | code (digits : Nat)

/-- The escapes between double quotes. -/
def escape? : Char → Option Escape
  | '0' => some (.char '\x00')
  | 'a' => some (.char '\x07')
  | 'b' => some (.char '\x08')
  | 't' | '\t' => some (.char '\t')
  | 'n' => some (.char '\n')
  | 'v' => some (.char '\x0b')
  | 'f' => some (.char '\x0c')
  | 'r' => some (.char '\r')
  | 'e' => some (.char '\x1b')
  | ' ' => some (.char ' ')
  | '"' => some (.char '"')
  | '/' => some (.char '/')
  | '\\' => some (.char '\\')
  | 'N' => some (.char '\u0085')
  | '_' => some (.char '\u00a0')
  | 'L' => some (.char '\u2028')
  | 'P' => some (.char '\u2029')
  | 'x' => some (.code 2)
  | 'u' => some (.code 4)
  | 'U' => some (.code 8)
  | _ => none

/-- The character of a code point in hexadecimal digits. -/
def codePoint? (count : Nat) (digits : List Char) : Option Char :=
  if digits.length = count then
    (natural? 16 digits).bind fun n => if n.isValidChar then some (Char.ofNat n) else none
  else none

/-- Part of a quoted scalar up to a blank, a break or the closing quote. -/
structure Piece where
  text : List Char
  /-- How many characters spell it. -/
  length : Nat
  /-- It ends at a line break behind a backslash. -/
  escapedBreak : Bool := false
deriving Inhabited

/-- The piece with one more character in front, spelled by `length` characters. -/
def Piece.push (c : Char) (length : Nat) (p : Piece) : Piece :=
  { p with text := c :: p.text, length := p.length + length }

/-- The next piece of a scalar in single quotes. -/
def singlePiece : List Char → Piece
  | [] => ⟨[], 0, false⟩
  | '\'' :: '\'' :: rest => (singlePiece rest).push '\'' 2
  | c :: rest =>
    if isSpacing c || isBreak c || c == '\'' then ⟨[], 0, false⟩ else (singlePiece rest).push c 1

/-- The next piece of a scalar in double quotes. -/
def doublePiece : List Char → Except Fault Piece
  | [] => .ok ⟨[], 0, false⟩
  | '\\' :: c :: rest =>
    if isBreak c then .ok ⟨[], 1, true⟩
    else match escape? c with
      | none => .error .escape
      | some (.char x) => do return (← doublePiece rest).push x 2
      | some (.code n) => match codePoint? n (rest.take n) with
        | none => .error .escape
        | some x => do return (← doublePiece (rest.drop n)).push x (n + 2)
  | c :: rest =>
    if isSpacing c || isBreak c || c == '"' then .ok ⟨[], 0, false⟩
    else if c == '\\' then .error .escape
    else do return (← doublePiece rest).push c 1
termination_by cs => cs.length
decreasing_by all_goals simp <;> omega

/-- The quoted scalar that goes on at the cursor, after `acc`, and the cursor behind its closing
quote. -/
def scan (quote : Char) (acc : List Char) (c : Cursor) : Except Fault (List Char × Cursor) := do
  if c.atDocumentMark then throw .documentMarkInText
  if c.rest.isEmpty then throw .unclosedQuote
  let piece ← if quote == '\'' then pure (singlePiece c.rest) else doublePiece c.rest
  let next := c.advance piece.length
  let next := if piece.escapedBreak then (next.takeBreak?.map Prod.snd).getD next else next
  let acc' := acc ++ piece.text
  if next.rest.head? == some quote then
    return (acc', next.advance 1)
  let (gap, behind) ← takeGap 0 { broken := piece.escapedBreak } next
  if behind.rest.length < c.rest.length then
    scan quote (acc' ++ gap.text) behind
  else
    throw .unclosedQuote
termination_by c.rest.length

end Quoted

end SheetCompiler.Document

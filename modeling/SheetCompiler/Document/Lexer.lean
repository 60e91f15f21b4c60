import SheetCompiler.Document.Block
import SheetCompiler.Document.Flow
import SheetCompiler.Document.Property

/-!
# Reading tokens

The lexer keeps the indentation of the open block collections and remembers, for every bracket
level, where a key may have started. When a colon shows that it did, the tokens `key` and, for a new
block mapping, `blockMapping` are put in front of it afterwards.
-/

namespace SheetCompiler.Document

/-- A place where a key may have started. A key stays on one line and has at most 1024 bytes. -/
structure KeyStart where
  /-- How many tokens came before it. -/
  tokens : Nat
  index : Nat
  line : Nat
  column : Nat
  /-- It stands at the indentation of its mapping, so it has to be a key. -/
  required : Bool

/-- The state of the lexer. -/
structure Lexer where
  cursor : Cursor
  /-- The tokens so far, the last one first. -/
  reversed : List Token := []
  /-- The number of tokens so far. -/
  count : Nat := 0
  /-- The column of the innermost block collection, below zero outside all of them. -/
  indent : Int := -1
  /-- The columns of the block collections around it. -/
  outer : List Int := []
  /-- A key may start at the cursor. -/
  keyAllowed : Bool := true
  /-- The possible key at the innermost bracket level. -/
  keyStart : Option KeyStart := none
  /-- The possible keys at the bracket levels around it, one for each open bracket. -/
  keyStarts : List (Option KeyStart) := []
deriving Inhabited

namespace Lexer

/-- The cursor is inside brackets. -/
def inFlow (l : Lexer) : Bool :=
  !l.keyStarts.isEmpty

/-- The lexer with one more token. -/
def push (l : Lexer) (t : Token) : Lexer :=
  { l with reversed := t :: l.reversed, count := l.count + 1 }

/-- The lexer with a token after the first `n`. -/
def insertToken (l : Lexer) (n : Nat) (t : Token) : Lexer :=
  let later := l.count - n
  { l with reversed := l.reversed.take later ++ t :: l.reversed.drop later, count := l.count + 1 }

/-- The lexer at another cursor. -/
def moveTo (l : Lexer) (c : Cursor) : Lexer :=
  { l with cursor := c }

/-- The lexer with another permission for keys. -/
def allowKey (l : Lexer) (allowed : Bool) : Lexer :=
  { l with keyAllowed := allowed }

/-- The lexer with one token for the next `n` characters. -/
def take (l : Lexer) (n : Nat) (t : Token) : Lexer :=
  (l.push t).moveTo (l.cursor.advance n)

/-- A block collection starts at the given column, after the first `n` tokens, if that is deeper
than the one around it. -/
def openBlock (l : Lexer) (column n : Nat) (t : Token) : Lexer :=
  if l.inFlow || (column : Int) ≤ l.indent then l
  else { l.insertToken n t with indent := column, outer := l.indent :: l.outer }

/-- The block collections deeper than a column stop: as many `blockEnd` tokens, and what remains
open. -/
def closedBlocks (column : Int) : Int → List Int → Nat × Int × List Int
  | indent, [] => (if column < indent then 1 else 0, if column < indent then -1 else indent, [])
  | indent, next :: rest =>
    if column < indent then
      let (n, indent', outer') := closedBlocks column next rest
      (n + 1, indent', outer')
    else (0, indent, next :: rest)

/-- The block collections deeper than the given column stop. Inside brackets indentation is free. -/
def closeBlocks (l : Lexer) (column : Int) : Lexer :=
  if l.inFlow then l
  else
    let (n, indent, outer) := closedBlocks column l.indent l.outer
    { l with
      reversed := List.replicate n .blockEnd ++ l.reversed, count := l.count + n, indent, outer }

/-- There is no key at the remembered place. -/
def dropKey (l : Lexer) : Except Fault Lexer :=
  if l.keyStart.any (·.required) then .error .colonExpected else .ok { l with keyStart := none }

/-- A key may start here. -/
def markKey (l : Lexer) : Except Fault Lexer := do
  if !l.keyAllowed then return l
  let l ← l.dropKey
  let c := l.cursor
  let required := !l.inFlow && l.indent == c.column
  return { l with keyStart := some ⟨l.count, c.index, c.line, c.column, required⟩ }

/-- The possible key that is still possible at the cursor. -/
def stillKey (c : Cursor) (k : Option KeyStart) : Except Fault (Option KeyStart) :=
  match k with
  | none => .ok none
  | some k =>
    if k.line < c.line || k.index + 1024 < c.index then
      if k.required then .error .colonExpected else .ok none
    else .ok (some k)

/-- Forgets the places that are too far back for a key. -/
def dropStaleKeys (l : Lexer) : Except Fault Lexer := do
  let keyStart ← stillKey l.cursor l.keyStart
  let keyStarts ← l.keyStarts.mapM (stillKey l.cursor)
  return { l with keyStart, keyStarts }

/-- Moves to the next token, over blanks, comments and line breaks. Where a key may start outside
brackets, a tab is no blank. A byte order mark at the start of a line is passed over, but it takes
up a column. -/
def skipGap (l : Lexer) : Lexer :=
  let c := l.cursor
  let c := if c.column == 0 && c.rest.head? == some '\ufeff' then c.advance 1 else c
  let tabs := l.inFlow || !l.keyAllowed
  let c := (c.dropWhile fun ch => ch == ' ' || (tabs && ch == '\t')).skipComment
  match c.takeBreak? with
  | none => l.moveTo c
  | some (_, next) =>
    if next.rest.length < l.cursor.rest.length then
      skipGap { l with cursor := next, keyAllowed := l.keyAllowed || !l.inFlow }
    else l.moveTo c
termination_by l.cursor.rest.length

/-- A mark between documents, or a directive: everything open stops. -/
def endBlocks (l : Lexer) : Except Fault Lexer := do
  return (← (l.closeBlocks (-1)).dropKey).allowKey false

/-- A bracket opens. -/
def openFlow (l : Lexer) (t : Token) : Except Fault Lexer := do
  let l ← l.markKey
  let l := { l with keyStart := none, keyStarts := l.keyStart :: l.keyStarts }
  return (l.allowKey true).take 1 t

/-- A bracket closes. -/
def closeFlow (l : Lexer) (t : Token) : Except Fault Lexer := do
  let l ← l.dropKey
  let l := match l.keyStarts with
    | [] => l
    | k :: rest => { l with keyStart := k, keyStarts := rest }
  return (l.allowKey false).take 1 t

/-- A comma between brackets. -/
def flowEntry (l : Lexer) : Except Fault Lexer := do
  return ((← l.dropKey).allowKey true).take 1 .flowEntry

/-- A hyphen. -/
def blockEntry (l : Lexer) : Except Fault Lexer := do
  if !l.inFlow && !l.keyAllowed then throw .misplacedEntry
  let l := l.openBlock l.cursor.column l.count .blockSequence
  return ((← l.dropKey).allowKey true).take 1 .blockEntry

/-- A question mark. -/
def explicitKey (l : Lexer) : Except Fault Lexer := do
  if !l.inFlow && !l.keyAllowed then throw .misplacedKey
  let l := l.openBlock l.cursor.column l.count .blockMapping
  return ((← l.dropKey).allowKey !l.inFlow).take 1 .key

/-- A colon: it turns what stands at the remembered place into a key. -/
def mappingValue (l : Lexer) : Except Fault Lexer :=
  match l.keyStart with
  | some k =>
    let l := (l.insertToken k.tokens .key).openBlock k.column k.tokens .blockMapping
    .ok (({ l with keyStart := none }.allowKey false).take 1 .value)
  | none => do
    if !l.inFlow && !l.keyAllowed then throw .misplacedValue
    let l := l.openBlock l.cursor.column l.count .blockMapping
    return (l.allowKey !l.inFlow).take 1 .value

/-- A reference to an anchor, or an anchor. -/
def anchor (l : Lexer) (t : String → Token) : Except Fault Lexer := do
  let l ← l.markKey
  let (name, next) ← takeAnchor (l.cursor.advance 1)
  return ((l.allowKey false).push (t name)).moveTo next

/-- A tag. -/
def tag (l : Lexer) : Except Fault Lexer := do
  let l ← l.markKey
  let (t, next) ← takeTag l.inFlow l.cursor
  return ((l.allowKey false).push t).moveTo next

/-- A literal or folded scalar. -/
def blockScalar (l : Lexer) (folded : Bool) : Except Fault Lexer := do
  let l ← l.dropKey
  let (text, next) ← Block.scan folded l.indent (l.cursor.advance 1)
  let style := if folded then Style.quoted else .literal
  return ((l.allowKey true).push (.scalar style (String.ofList text))).moveTo next

/-- A quoted scalar. -/
def quotedScalar (l : Lexer) (quote : Char) : Except Fault Lexer := do
  let l ← l.markKey
  let (text, next) ← Quoted.scan quote [] (l.cursor.advance 1)
  return ((l.allowKey false).push (.scalar .quoted (String.ofList text))).moveTo next

/-- A plain scalar. One that ends after a line break allows a key on the line reached. -/
def plainScalar (l : Lexer) : Except Fault Lexer := do
  let l ← l.markKey
  let (text, broken, next) ← Plain.scan l.inFlow (l.indent + 1).toNat [] {} l.cursor
  return ((l.allowKey broken).push (.scalar .plain (String.ofList text))).moveTo next

/-- A mark between documents. -/
def documentMark (l : Lexer) (t : Token) : Except Fault Lexer := do
  return (← l.endBlocks).take 3 t

/-- A directive. -/
def directive (l : Lexer) : Except Fault Lexer := do
  let l ← l.endBlocks
  let (t, next) ← takeDirective (l.cursor.advance 1)
  return (l.push t).moveTo next

/-- The token that starts with the character `ch` at the cursor, before `rest`. -/
def token (l : Lexer) (ch : Char) (rest : List Char) : Except Fault Lexer :=
  let c := l.cursor
  if c.column == 0 && ch == '%' then l.directive
  else if c.atMark '-' then l.documentMark .documentStart
  else if c.atMark '.' then l.documentMark .documentEnd
  else if ch == '[' then l.openFlow .flowSequence
  else if ch == '\x7b' then l.openFlow .flowMapping
  else if ch == ']' then l.closeFlow .flowSequenceEnd
  else if ch == '\x7d' then l.closeFlow .flowMappingEnd
  else if ch == ',' then l.flowEntry
  else if ch == '-' && endsWord rest then l.blockEntry
  else if ch == '?' && (l.inFlow || endsWord rest) then l.explicitKey
  else if ch == ':' && (l.inFlow || endsWord rest) then l.mappingValue
  else if ch == '*' then l.anchor .alias
  else if ch == '&' then l.anchor .anchor
  else if ch == '!' then l.tag
  else if ch == '|' && !l.inFlow then l.blockScalar false
  else if ch == '>' && !l.inFlow then l.blockScalar true
  else if ch == '\'' || ch == '"' then l.quotedScalar ch
  else if isSpacing ch || isBreak ch || ['#', '|', '>', '%', '@', '\x60'].contains ch then
    .error .unknownStart
  else l.plainScalar

/-- The remaining tokens of the text. -/
def run (l : Lexer) : Except Fault (List Token) := do
  let next ← l.skipGap.dropStaleKeys
  let next := next.closeBlocks next.cursor.column
  match next.cursor.rest with
  | [] =>
    let last ← (next.closeBlocks (-1)).dropKey
    return last.reversed.reverse
  | ch :: rest =>
    let next ← next.token ch rest
    if next.cursor.rest.length < l.cursor.rest.length then run next else throw .unknownStart
termination_by l.cursor.rest.length

end Lexer

/-- The tokens of a text. -/
def tokenize (text : String) : Except Fault (List Token) :=
  let chars := text.toList
  if chars.all isAllowed then Lexer.run { cursor := { rest := chars } }
  else .error .controlCharacter

end SheetCompiler.Document

import SheetCompiler.Document.Cursor
import SheetCompiler.Document.Fault
import SheetCompiler.Document.Plain
import SheetCompiler.Document.Token

/-!
# Directives, anchors and tags

What may stand before the content of a document or of a node.
-/

namespace SheetCompiler.Document

/-- The name of an anchor or of a reference to one, behind its indicator. -/
def takeAnchor (c : Cursor) : Except Fault (String × Cursor) :=
  let (name, next) := c.takeWhile isWordChar
  let closed := endsWord next.rest
    || next.rest.head?.any ['?', ':', ',', ']', '\x7d', '%', '@', '\x60'].contains
  if name.isEmpty || !closed then .error .anchor else .ok (String.ofList name, next)

/-- The characters of a tag's name. Brackets and commas belong to it only where `verbatim`. -/
def isTagChar (verbatim : Bool) (c : Char) : Bool :=
  isWordChar c
    || [';', '/', '?', ':', '@', '&', '=', '+', '$', '.', '%', '!', '~', '*', '\'', '(',
      ')'].contains c
    || (verbatim && [',', '[', ']'].contains c)

/-- The number of bytes of a character whose encoding starts with the given byte. -/
def byteCount (first : Nat) : Nat :=
  if first < 0x80 then 1
  else if 0xc0 ≤ first && first < 0xe0 then 2
  else if 0xe0 ≤ first && first < 0xf0 then 3
  else if 0xf0 ≤ first && first < 0xf8 then 4
  else 0

/-- The byte written as a percent sign and two hexadecimal digits. -/
def percentByte? : List Char → Option (Nat × List Char)
  | '%' :: x :: y :: rest => (natural? 16 [x, y]).map fun n => (n, rest)
  | _ => none

/-- The following `count` bytes of a character, each with six bits of its code point. -/
def percentTail? : Nat → Nat → List Char → Option (Nat × List Char)
  | 0, code, cs => some (code, cs)
  | count + 1, code, cs => (percentByte? cs).bind fun (byte, rest) =>
    if 0x80 ≤ byte && byte < 0xc0 then percentTail? count (64 * code + (byte - 0x80)) rest else none

/-- The character written as percent-encoded bytes, if these are the bytes of a character. -/
def percentChar? (cs : List Char) : Option (Option Char × List Char) :=
  (percentByte? cs).bind fun (first, rest) =>
    match byteCount first with
    | 0 => none
    | 1 => some (some (Char.ofNat first), rest)
    | count + 1 =>
      (percentTail? count (first % Nat.pow 2 (6 - count)) rest).map fun (code, rest) =>
        let sound := code.isValidChar && (Char.ofNat code).utf8Size == count + 1
        (if sound then some (Char.ofNat code) else none, rest)

/-- The name of a tag with its percent escapes resolved. -/
def unescapeTag (cs : List Char) : Except Fault TagText :=
  match cs with
  | [] => .ok []
  | c :: rest =>
    if c == '%' then
      match percentChar? (c :: rest) with
      | none => .error .tag
      | some (x, behind) =>
        if behind.length ≤ rest.length then do return x :: (← unescapeTag behind) else .error .tag
    else do return some c :: (← unescapeTag rest)
termination_by cs.length
decreasing_by all_goals simp only [List.length_cons]; omega

/-- The name of a tag at the cursor; it may be empty only where `head` characters of it came before.
A null character ends it. -/
def takeTagName (verbatim : Bool) (head : Nat) (c : Cursor) : Except Fault (TagText × Cursor) := do
  let (chars, next) := c.takeWhile (isTagChar verbatim)
  if head == 0 && chars.isEmpty then throw .tag
  return ((← unescapeTag chars).takeWhile (· != some '\x00'), next)

/-- A tag handle: an exclamation mark, then perhaps a word and a second one. -/
def takeHandle (c : Cursor) : Except Fault (List Char × Cursor) :=
  match c.rest with
  | '!' :: _ =>
    let (word, next) := (c.advance 1).takeWhile isWordChar
    match next.rest with
    | '!' :: _ => .ok ('!' :: (word ++ ['!']), next.advance 1)
    | _ => .ok ('!' :: word, next)
  | _ => .error .tag

/-- The tag at the cursor. Inside brackets a comma may follow it. -/
def takeTag (flow : Bool) (c : Cursor) : Except Fault (Token × Cursor) := do
  let (token, next) ← match c.rest with
    | '!' :: '<' :: _ => do
      let (uri, next) ← takeTagName true 0 (c.advance 2)
      if next.rest.head? != some '>' then throw .tag
      pure (Token.tag "" uri, next.advance 1)
    | _ => do
      let (handle, next) ← takeHandle c
      if 1 < handle.length && handle.getLast? == some '!' then
        let (name, next) ← takeTagName false 0 next
        pure (Token.tag (String.ofList handle) name, next)
      else
        let (name, next) ← takeTagName false handle.length next
        let whole := (handle.drop 1).map some ++ name
        pure (if whole.isEmpty then Token.tag "" [some '!'] else Token.tag "!" whole, next)
  if endsWord next.rest || (flow && next.rest.head? == some ',') then
    return (token, next)
  throw .tag

/-- A version number of at most nine digits. -/
def takeVersion (c : Cursor) : Except Fault (Nat × Cursor) :=
  let (digits, next) := c.takeWhile Char.isDigit
  if 9 < digits.length then .error .directive
  else match natural? 10 digits with
    | some n => .ok (n, next)
    | none => .error .directive

/-- The directive behind a percent sign, with its line. -/
def takeDirective (c : Cursor) : Except Fault (Token × Cursor) := do
  let (name, next) := c.takeWhile isWordChar
  if name.isEmpty || !endsWord next.rest then throw .directive
  let next := next.dropWhile isSpacing
  let (token, next) ← match String.ofList name with
    | "YAML" => do
      let (major, next) ← takeVersion next
      if next.rest.head? != some '.' then throw .directive
      let (minor, next) ← takeVersion (next.advance 1)
      pure (Token.version major minor, next)
    | "TAG" => do
      let (handle, next) ← takeHandle next
      if handle != ['!'] && !(1 < handle.length && handle.getLast? == some '!') then
        throw .directive
      if !next.rest.head?.any isSpacing then throw .directive
      let (uri, next) ← takeTagName true 0 (next.dropWhile isSpacing)
      if !endsWord next.rest then throw .directive
      pure (Token.handle (String.ofList handle) uri, next)
    | _ => throw .directive
  let next := (next.dropWhile isSpacing).skipComment
  match next.rest, next.takeBreak? with
  | [], _ => return (token, next)
  | _, some (_, behind) => return (token, behind)
  | _, none => throw .directive

end SheetCompiler.Document

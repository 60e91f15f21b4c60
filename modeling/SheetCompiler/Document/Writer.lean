import SheetCompiler.Document.Cursor
import SheetCompiler.Document.Plain
import SheetCompiler.Text.Quoted

/-!
# Writing documents

Documents are written in block style, two spaces per level, with the items of a sequence at the
column of their key. A text is written bare where that is safe, over several lines where it has line
feeds, and otherwise between quotes, double ones only where a character has to be escaped. Lines are
never folded.
-/

namespace SheetCompiler.Document

/-- The text with the start of a further line at the given indentation. A text that ends with a line
break has started that line already. -/
def startLine (s : String) (indent : Nat) : String :=
  (if s.back?.any isBreak then s else s.push '\n') ++ String.ofList (List.replicate indent ' ')

/-- The characters that can stand in a document as themselves. -/
def isWritable (c : Char) : Bool :=
  c == '\n' || ('\x20' ≤ c && c ≤ '\x7e')
    || ('\u00a0' ≤ c && c ≤ '\ufffd' && c != '\ufeff') || 0x10000 ≤ c.toNat

/-- How a text is laid out in a document. -/
inductive Layout where
  | plain
  | single
  | double
  | literal
deriving DecidableEq

namespace Layout

/-- The text starts like something else than a plain scalar. -/
def startsMarked : List Char → Bool
  | '-' :: '-' :: '-' :: _ | '.' :: '.' :: '.' :: _ => true
  | c :: rest =>
    ['#', ',', '[', ']', '\x7b', '\x7d', '&', '*', '!', '|', '>', '\'', '"', '%', '@',
      '\x60'].contains c
      || (['-', '?', ':'].contains c && endsWord rest)
  | [] => false

/-- Further on, a colon at the end of a word or a number sign at the start of one. -/
def hasMark : List Char → Bool
  | c :: d :: rest =>
    (d == ':' && endsWord rest) || (d == '#' && endsWord [c]) || hasMark (d :: rest)
  | _ => false

/-- A character that satisfies `p` stands directly before one that satisfies `q`. -/
def hasPair (p q : Char → Bool) : List Char → Bool
  | c :: d :: rest => (p c && q d) || hasPair p q (d :: rest)
  | _ => false

/-- The layout of a text. -/
def ofText (s : String) : Layout :=
  let cs := s.toList
  let isSpace := (· == ' ')
  let special := !cs.all isWritable || hasPair isSpace isBreak cs
  let edge := cs.head?.any isSpace || cs.getLast?.any isSpace
  if cs.contains '\n' then
    if special || cs.getLast?.any isSpace then .double else .literal
  else if special || hasPair isBreak isSpace cs then .double
  else if isAmbiguous s || edge || cs.any isBreak || startsMarked cs || hasMark cs then .single
  else .plain

end Layout

/-- The letter of a character that is escaped by one between double quotes. -/
def escapeLetter? : Char → Option Char
  | '\x00' => some '0'
  | '\x07' => some 'a'
  | '\x08' => some 'b'
  | '\t' => some 't'
  | '\n' => some 'n'
  | '\x0b' => some 'v'
  | '\x0c' => some 'f'
  | '\r' => some 'r'
  | '\x1b' => some 'e'
  | '"' => some '"'
  | '\\' => some '\\'
  | '\u0085' => some 'N'
  | '\u2028' => some 'L'
  | '\u2029' => some 'P'
  | _ => none

/-- A number in hexadecimal digits of upper case, filled up with zeros. -/
def paddedHex (width n : Nat) : List Char :=
  let ds := (Nat.toDigits 16 n).map Char.toUpper
  List.replicate (width - ds.length) '0' ++ ds

/-- A character between double quotes. -/
def doubleChar (c : Char) : List Char :=
  if isWritable c && !isBreak c && c != '"' && c != '\\' then [c]
  else match escapeLetter? c with
    | some letter => ['\\', letter]
    | none =>
      if c.toNat ≤ 0xff then '\\' :: 'x' :: paddedHex 2 c.toNat
      else if c.toNat ≤ 0xffff then '\\' :: 'u' :: paddedHex 4 c.toNat
      else '\\' :: 'U' :: paddedHex 8 c.toNat

/-- The lines of a literal block: what follows a break starts with the indentation, empty lines
apart. -/
def indented (indent : Nat) (broken : Bool) : List Char → List Char
  | [] => []
  | c :: rest =>
    if isBreak c then c :: indented indent true rest
    else if broken then List.replicate indent ' ' ++ c :: indented indent false rest
    else c :: indented indent false rest

/-- The header of a literal block: the indentation where the text starts with a blank, and what
becomes of the breaks at the end. -/
def literalHeader (cs : List Char) : String :=
  let start := if cs.head?.any fun c => c == ' ' || isBreak c then "2" else ""
  let stop := match cs.reverse with
    | [] => "-"
    | last :: before =>
      if !isBreak last then "-"
      else match before with
        | [] => "+"
        | c :: _ => if isBreak c then "+" else ""
  "|" ++ start ++ stop

/-- A character between single quotes. -/
def singleChar (c : Char) : List Char :=
  if c == '\'' then [c, c] else [c]

/-- A text in its layout, the further lines at the given indentation. -/
def writeText (indent : Nat) (s : String) : String :=
  let cs := s.toList
  match Layout.ofText s with
  | .plain => s
  | .single =>
    -- The closing quote is indented like any other character.
    String.ofList ('\'' :: indented indent false (cs.flatMap singleChar ++ ['\'']))
  | .double => String.ofList ('"' :: (cs.flatMap doubleChar ++ ['"']))
  | .literal => literalHeader cs ++ "\n" ++ String.ofList (indented indent true cs)

/-- A scalar, its further lines at the given indentation. -/
def Scalar.write (indent : Nat) : Scalar → String
  | .spelled .plain text => text
  | .spelled _ text => writeText indent text
  | value => value.text

/-- A tag with the blank behind it. -/
def Tag.write : Option Tag → String
  | none => ""
  | some (.named name) => " !" ++ name
  | some .nameless => " !%C0%80"
  | some (.core name) => " !!" ++ name
  | some (.foreign uri) => " !<" ++ uri ++ ">"

/-- A scalar can be followed by a colon on its line. -/
def Scalar.isShort (value : Scalar) : Bool :=
  value.text.utf8ByteSize ≤ 128 && !value.text.toList.any isBreak

/-- The place where a node starts. -/
inductive Place where
  /-- Behind the colon of a short key. -/
  | key
  /-- Behind a hyphen, or behind the mark of a long key or of its value. -/
  | mark
deriving DecidableEq

/-- The start of a collection behind its tag: on the same line only behind a mark without a tag. -/
def startCollection (place : Place) (tag : Option Tag) (indent : Nat) : String :=
  if place = .mark && tag.isNone then " " else startLine (Tag.write tag) indent

mutual

/-- A node behind its key or mark, in a collection at the given indentation. -/
def Node.writeAt (place : Place) (indent : Nat) : Node → String
  | .cyclic => ""
  | .reference target => target.writeAt place indent
  | .scalar tag value => Tag.write tag ++ " " ++ value.write (indent + 2)
  | .sequence tag [] => Tag.write tag ++ " []"
  | .sequence tag items =>
    let inner := if place = .key then indent else indent + 2
    startCollection place tag inner ++ writeItems inner items
  | .mapping tag [] => Tag.write tag ++ " \x7b\x7d"
  | .mapping tag entries =>
    startCollection place tag (indent + 2) ++ writeEntries (indent + 2) entries

/-- The items of a sequence at the given indentation; the first one starts where the text stands. -/
def writeItems (indent : Nat) : List Node → String
  | [] => ""
  | [item] => "-" ++ item.writeAt .mark indent
  | item :: rest => startLine ("-" ++ item.writeAt .mark indent) indent ++ writeItems indent rest

/-- The entries of a mapping at the given indentation; the first one starts where the text
stands. -/
def writeEntries (indent : Nat) : List (Node × Node) → String
  | [] => ""
  | [entry] => writeEntry indent entry
  | entry :: rest => startLine (writeEntry indent entry) indent ++ writeEntries indent rest

/-- An entry of a mapping. A key that is long or has several lines gets a mark of its own, and so
does its value. -/
def writeEntry (indent : Nat) : Node × Node → String
  | (.scalar none key, value) =>
    if key.isShort then key.write (indent + 2) ++ ":" ++ value.writeAt .key indent
    else startLine ("? " ++ key.write (indent + 2)) indent ++ ":" ++ value.writeAt .mark indent
  | (key, value) =>
    startLine ("?" ++ key.writeAt .mark indent) indent ++ ":" ++ value.writeAt .mark indent

end

/-- The text of a document. -/
def Node.toText : Node → String
  | .mapping none (entry :: rest) => startLine (writeEntries 0 (entry :: rest)) 0
  | node => startLine (String.ofList ((node.writeAt .mark 0).toList.drop 1)) 0

end SheetCompiler.Document

import SheetCompiler.Code.Keyword
import SheetCompiler.Text.Casing

/-!
# Identifiers

Names made from free text: the words of the text joined in camel case.
-/

namespace SheetCompiler.Naming

/-- A first character of an identifier. -/
def startsIdentifier (c : Char) : Bool :=
  c.isAlpha || c == '_'

/-- A later character of an identifier. -/
def continuesIdentifier (c : Char) : Bool :=
  c.isAlpha || c.isDigit || c == '_'

/-- The characters make up an identifier. -/
def isIdentifierChars : List Char → Bool
  | [] => false
  | c :: rest => startsIdentifier c && rest.all continuesIdentifier

/-- The text is an identifier. -/
def isIdentifier (s : String) : Bool :=
  isIdentifierChars s.toList

/-- The text is an identifier and no reserved word. -/
def isUsable (s : String) : Bool :=
  isIdentifier s && !Code.isKeyword s

/-- The text is a sequence of identifiers with dots between them, none of them a reserved word. -/
def isDottedName (s : String) : Bool :=
  (s.toList.splitOn '.').all fun part => isUsable (String.ofList part)

/-- A character that ends a word of free text. -/
def separatesWords (c : Char) : Bool :=
  c == ' ' || c == '_'

/-- The words of free text, anything but letters, digits, spaces and underscores left out. -/
def words (s : String) : List (List Char) :=
  let kept := s.toList.filter fun c => c.isAlpha || c.isDigit || separatesWords c
  (kept.splitOnP separatesWords).filter (!·.isEmpty)

/-- A word with a capital first letter and all others small. -/
def capitalized : List Char → List Char
  | [] => []
  | c :: rest => c.toUpper :: rest.map Char.toLower

/-- Free text as an identifier in camel case, empty when the text has no words. -/
def camelCase (s : String) : String :=
  let cs := match words s with
    | [] => []
    | first :: rest => first.map Char.toLower ++ rest.flatMap capitalized
  match cs with
  | [] => ""
  | c :: _ => String.ofList (if c.isDigit then '_' :: cs else cs)

/-- A name with a capital first letter. -/
def pascalCase (s : String) : String :=
  match s.toList with
  | [] => ""
  | c :: rest => String.ofList (Text.upperChar c ++ rest)

end SheetCompiler.Naming

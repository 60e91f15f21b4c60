import SheetCompiler.Document.Node

/-!
# Tokens of documents

Indentation is made explicit: a block collection starts with a token of its own and stops with
`blockEnd`, and every key of a mapping is announced by `key`.
-/

namespace SheetCompiler.Document

/-- The characters of a tag. Percent escapes that spell no character leave a gap. -/
abbrev TagText := List (Option Char)

/-- A token of a document. -/
inductive Token where
  | version (major minor : Nat)
  /-- The meaning of a tag handle. -/
  | handle (name : String) (uri : TagText)
  | documentStart
  | documentEnd
  | blockSequence
  | blockMapping
  | blockEnd
  | flowSequence
  | flowSequenceEnd
  | flowMapping
  | flowMappingEnd
  | blockEntry
  | flowEntry
  | key
  | value
  | alias (name : String)
  | anchor (name : String)
  /-- A tag by its handle, which is empty for a verbatim tag. -/
  | tag (handle : String) (name : TagText)
  | scalar (style : Style) (text : String)
deriving DecidableEq, Inhabited

end SheetCompiler.Document

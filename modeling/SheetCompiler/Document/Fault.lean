/-!
# Faults of documents

What can be wrong with the text of a document, and with a document that is not of the expected
shape.
-/

namespace SheetCompiler.Document

/-- What can be wrong with a document. -/
inductive Fault where
  | controlCharacter
  /-- A line at the indentation of a mapping has no `:`. -/
  | colonExpected
  | misplacedEntry
  | misplacedKey
  | misplacedValue
  | unknownStart
  | directive
  | anchor
  | tag
  | tabIndentation
  | ambiguousColon
  | documentMarkInText
  | unclosedQuote
  | escape
  | blockHeader
  | contentExpected
  | entryExpected
  | keyExpected
  | separatorExpected
  | documentStartExpected
  | unknownAnchor (name : String)
  | severalDocuments
  | tooDeep
  | tooManyReferences
  /-- A node of another kind stands where this one is expected. -/
  | expected (kind : String)
  | missingField (name : String)
  | repeatedField (name : String)
  | unknownField (name : String)
  | unknownAlternative (name : String)
  | invalidAddress (text : String)
deriving DecidableEq

/-- The fault in words. -/
def Fault.message : Fault → String
  | controlCharacter => "control characters are not allowed"
  | colonExpected => "could not find expected ':'"
  | misplacedEntry => "block sequence entries are not allowed in this context"
  | misplacedKey => "mapping keys are not allowed in this context"
  | misplacedValue => "mapping values are not allowed in this context"
  | unknownStart => "found character that cannot start any token"
  | directive => "found an invalid directive"
  | anchor => "did not find expected alphabetic or numeric character in an anchor"
  | tag => "found an invalid tag"
  | tabIndentation => "found a tab character where an indentation space is expected"
  | ambiguousColon => "found unexpected ':'"
  | documentMarkInText => "found unexpected document indicator"
  | unclosedQuote => "found unexpected end of stream"
  | escape => "found an invalid escape sequence"
  | blockHeader => "did not find expected comment or line break"
  | contentExpected => "did not find expected node content"
  | entryExpected => "did not find expected '-' indicator"
  | keyExpected => "did not find expected key"
  | separatorExpected => "did not find expected ',' or closing bracket"
  | documentStartExpected => "did not find expected <document start>"
  | unknownAnchor name => "unknown anchor " ++ name
  | severalDocuments => "found more than one document"
  | tooDeep => "collections are nested too deep"
  | tooManyReferences => "too many references are followed"
  | expected kind => "expected " ++ kind
  | missingField name => "missing field `" ++ name ++ "`"
  | repeatedField name => "duplicate field `" ++ name ++ "`"
  | unknownField name => "unknown field `" ++ name ++ "`"
  | unknownAlternative name => "unknown variant `" ++ name ++ "`"
  | invalidAddress text => "Invalid cell address: " ++ text

end SheetCompiler.Document

/-!
# Reserved words

The words that no generated name may be: those of C# and those that a generated file uses itself.
-/

namespace SheetCompiler.Code

/-- The reserved words. -/
def keywords : List String :=
  ["abstract", "as", "base", "bool", "break", "byte", "case", "catch", "char", "checked",
    "class", "const", "continue", "decimal", "default", "delegate", "do", "double", "else",
    "enum", "event", "explicit", "extern", "false", "finally", "fixed", "float", "for",
    "foreach", "goto", "if", "implicit", "in", "int", "interface", "internal", "is", "lock",
    "long", "namespace", "new", "null", "object", "operator", "out", "override", "params",
    "private", "protected", "public", "readonly", "ref", "return", "sbyte", "sealed", "short",
    "sizeof", "stackalloc", "static", "string", "struct", "switch", "this", "throw", "true",
    "try", "typeof", "uint", "ulong", "unchecked", "unsafe", "ushort", "using", "virtual",
    "void", "volatile", "while", "value", "var", "dynamic", "yield", "async", "await", "nameof",
    "record", "Math", "System", "XlRuntime"]

/-- The word is reserved. -/
def isKeyword (word : String) : Bool :=
  keywords.contains word

end SheetCompiler.Code

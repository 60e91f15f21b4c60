import SheetCompiler.Address.Basic
import SheetCompiler.Address.Column
import SheetCompiler.Ascending
import SheetCompiler.ClassFile.Basic
import SheetCompiler.ClassFile.Declaration
import SheetCompiler.ClassFile.Line
import SheetCompiler.Code.Expr
import SheetCompiler.Code.Keyword
import SheetCompiler.Code.Render
import SheetCompiler.Code.Support
import SheetCompiler.Code.ValueType
import SheetCompiler.Command.Arguments
import SheetCompiler.Command.Run
import SheetCompiler.Command.Usage
import SheetCompiler.Compilation
import SheetCompiler.CompileError
import SheetCompiler.Decimal.Binary
import SheetCompiler.Decimal.Layout
import SheetCompiler.Decimal.Reading
import SheetCompiler.Decimal.Shortest
import SheetCompiler.Dependency.Cycle
import SheetCompiler.Dependency.Graph
import SheetCompiler.Dependency.Order
import SheetCompiler.Dependency.Tree
import SheetCompiler.Document.Block
import SheetCompiler.Document.Cursor
import SheetCompiler.Document.Decoder
import SheetCompiler.Document.Draft
import SheetCompiler.Document.Fault
import SheetCompiler.Document.Flow
import SheetCompiler.Document.Lexer
import SheetCompiler.Document.Node
import SheetCompiler.Document.Plain
import SheetCompiler.Document.Property
import SheetCompiler.Document.Reader
import SheetCompiler.Document.Schema
import SheetCompiler.Document.Token
import SheetCompiler.Document.Writer
import SheetCompiler.Entry
import SheetCompiler.Evaluation.Arithmetic
import SheetCompiler.Evaluation.Basic
import SheetCompiler.Evaluation.Call
import SheetCompiler.Evaluation.Lookup
import SheetCompiler.Evaluation.Operators
import SheetCompiler.Files.Directory
import SheetCompiler.Files.Host
import SheetCompiler.Files.Loading
import SheetCompiler.Files.Path
import SheetCompiler.Formula.Expr
import SheetCompiler.Formula.Function
import SheetCompiler.Formula.Lexer
import SheetCompiler.Formula.Parser
import SheetCompiler.Formula.Token
import SheetCompiler.Import
import SheetCompiler.Json
import SheetCompiler.Labels
import SheetCompiler.Literal
import SheetCompiler.Lowering.Basic
import SheetCompiler.Lowering.Call
import SheetCompiler.Lowering.RawName
import SheetCompiler.Lowering.Scope
import SheetCompiler.Lowering.Typed
import SheetCompiler.Main
import SheetCompiler.Naming.FirstFree
import SheetCompiler.Naming.Identifier
import SheetCompiler.Naming.Mapping
import SheetCompiler.Options
import SheetCompiler.OrderedMap
import SheetCompiler.Persistence.Expr
import SheetCompiler.Persistence.Workbook
import SheetCompiler.Service
import SheetCompiler.Text.Alphabetic
import SheetCompiler.Text.Blank
import SheetCompiler.Text.Casing
import SheetCompiler.Text.Delimited
import SheetCompiler.Text.Numeric
import SheetCompiler.Text.Printable
import SheetCompiler.Text.Quoted
import SheetCompiler.Text.Ranges
import SheetCompiler.Value
import SheetCompiler.Workbook
import SheetCompiler.Proofs.OrderedMap
import SheetCompiler.Proofs.Formula.WellFormed
import SheetCompiler.Proofs.Dependency.References
import SheetCompiler.Proofs.Dependency.Order
import SheetCompiler.Proofs.Dependency.Cycle
import SheetCompiler.Proofs.Evaluation.Depth
import SheetCompiler.Proofs.Evaluation.Memory
import SheetCompiler.Proofs.Address.Spelling
import SheetCompiler.Proofs.Naming.FirstFree
import SheetCompiler.Proofs.Lowering.RawName
import SheetCompiler.Proofs.Code.Execution
import SheetCompiler.Proofs.Lowering.Fragment
import SheetCompiler.Proofs.Except
import SheetCompiler.Proofs.Lowering.Computes
import SheetCompiler.Proofs.Lowering.Expressions
import SheetCompiler.Proofs.Lowering.Program
import SheetCompiler.Proofs.Evaluation.Failure
import SheetCompiler.Proofs.Evaluation.Path
import SheetCompiler.Proofs.Lowering.CallCode
import SheetCompiler.Proofs.Lowering.Positions
import SheetCompiler.Proofs.Lowering.Checked
import SheetCompiler.Proofs.Code.Typing
import SheetCompiler.Proofs.Lowering.Typing
import SheetCompiler.Proofs.Lowering.Declarations
import SheetCompiler.Proofs.Lowering.DistinctNames
import SheetCompiler.Proofs.Naming.Identifier
import SheetCompiler.Proofs.Naming.Assignment
import SheetCompiler.Proofs.ClassFile.Renaming
import SheetCompiler.Proofs.Compilation
import SheetCompiler.Proofs.Lowering.Failure
import SheetCompiler.Proofs.Decimal.Zero
import SheetCompiler.Proofs.Lowering.Fits
import SheetCompiler.Proofs.Lowering.Quiet
import SheetCompiler.Proofs.ClassFile.Deferral
import SheetCompiler.Proofs.Address.Reading
import SheetCompiler.Proofs.Formula.Grammar
import SheetCompiler.Proofs.Formula.Parsing
import SheetCompiler.Proofs.Evaluation.Replacement
import SheetCompiler.Proofs.Naming.Wanted
import SheetCompiler.Proofs.ClassFile.Members
import SheetCompiler.Proofs.Document.Standing
import SheetCompiler.Proofs.Persistence.RoundTrip
import SheetCompiler.Proofs.Code.LineEnds
import SheetCompiler.Proofs.Dependency.Least
import SheetCompiler.Proofs.ClassFile.LineEnds
import SheetCompiler.Proofs.Lowering.Counting
import SheetCompiler.Proofs.Lowering.Stems
import SheetCompiler.Proofs.Lowering.Inlining
import SheetCompiler.Proofs.ClassFile.Parameters
import SheetCompiler.Proofs.Lowering.Division
import SheetCompiler.Proofs.ClassFile.Holding
import SheetCompiler.Proofs.Dependency.Views
import SheetCompiler.Proofs.Formula.Spelling
import SheetCompiler.Proofs.Address.Display
import SheetCompiler.Proofs.Code.TextLiteral
import SheetCompiler.Proofs.Code.Tokens
import SheetCompiler.Proofs.Evaluation.Propagation
import SheetCompiler.Proofs.ClassFile.TypeArguments
import SheetCompiler.Proofs.Code.Reading
import SheetCompiler.Proofs.Labels
import SheetCompiler.Proofs.Import
import SheetCompiler.Proofs.ClassFile.Outputs
import SheetCompiler.Proofs.Evaluation.Table
import SheetCompiler.Proofs.Evaluation.Selection
import SheetCompiler.Proofs.Dependency.Tree
import SheetCompiler.Proofs.Evaluation.Index
import SheetCompiler.Proofs.Formula.Ranges

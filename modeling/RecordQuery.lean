import RecordQuery.Binary64.Arithmetic
import RecordQuery.Binary64.Basic
import RecordQuery.Binary64.Decimal
import RecordQuery.Binary64.Rounding
import RecordQuery.Binding.Literal
import RecordQuery.Binding.Operand
import RecordQuery.Binding.Path
import RecordQuery.Binding.Term
import RecordQuery.DateTime.Basic
import RecordQuery.DateTime.Calendar
import RecordQuery.DateTime.Printer
import RecordQuery.DateTime.Reader
import RecordQuery.Evaluate.Arithmetic
import RecordQuery.Evaluate.Basic
import RecordQuery.Evaluate.Function
import RecordQuery.Expr.Basic
import RecordQuery.Expr.Builtin
import RecordQuery.Expr.Operator
import RecordQuery.Expr.Text
import RecordQuery.Grammar.Expression
import RecordQuery.Grammar.Nesting
import RecordQuery.Grammar.Recognizer
import RecordQuery.Grammar.Term
import RecordQuery.Grammar.Token
import RecordQuery.Guid
import RecordQuery.Json.Basic
import RecordQuery.Json.Printer
import RecordQuery.Json.Reader
import RecordQuery.Options.Basic
import RecordQuery.Options.Filter
import RecordQuery.Options.OrderBy
import RecordQuery.Options.Paging
import RecordQuery.OrderBy
import RecordQuery.Parse
import RecordQuery.ParseError
import RecordQuery.Pipeline.Basic
import RecordQuery.Pipeline.Query
import RecordQuery.Pipeline.Sort
import RecordQuery.Policy.AllowedSet
import RecordQuery.Policy.Basic
import RecordQuery.Policy.Codec
import RecordQuery.Policy.Tag
import RecordQuery.Power
import RecordQuery.Proofs.Binary64.Order
import RecordQuery.Proofs.Binding.Conversion
import RecordQuery.Proofs.Binding.Depth
import RecordQuery.Proofs.Binding.Numeral
import RecordQuery.Proofs.Binding.Operand
import RecordQuery.Proofs.Binding.Path
import RecordQuery.Proofs.Binding.Positions
import RecordQuery.Proofs.Binding.Spine
import RecordQuery.Proofs.Binding.Term
import RecordQuery.Proofs.Binding.Unquantified
import RecordQuery.Proofs.Display.Constants
import RecordQuery.Proofs.Display.Fitting
import RecordQuery.Proofs.Display.Legible
import RecordQuery.Proofs.Display.Lexical
import RecordQuery.Proofs.Display.Reading
import RecordQuery.Proofs.Display.Rebinding
import RecordQuery.Proofs.Display.RoundTrip
import RecordQuery.Proofs.Display.Shown
import RecordQuery.Proofs.Evaluate.Converse
import RecordQuery.Proofs.Evaluate.Conversion
import RecordQuery.Proofs.Evaluate.Dependence
import RecordQuery.Proofs.Evaluate.IntegerArithmetic
import RecordQuery.Proofs.Evaluate.Operator
import RecordQuery.Proofs.Evaluate.Preservation
import RecordQuery.Proofs.Evaluate.Reads
import RecordQuery.Proofs.Evaluate.Renaming
import RecordQuery.Proofs.Evaluate.Resolution
import RecordQuery.Proofs.Evaluate.RuntimeType
import RecordQuery.Proofs.Evaluate.StringFunctions
import RecordQuery.Proofs.Except
import RecordQuery.Proofs.Expr.Alpha
import RecordQuery.Proofs.Expr.Part
import RecordQuery.Proofs.Grammar.Balance
import RecordQuery.Proofs.Grammar.Constants
import RecordQuery.Proofs.Grammar.Layout
import RecordQuery.Proofs.Grammar.Lexical
import RecordQuery.Proofs.Grammar.LocalTerms
import RecordQuery.Proofs.Grammar.Locality
import RecordQuery.Proofs.Grammar.Measure
import RecordQuery.Proofs.Grammar.Names
import RecordQuery.Proofs.Grammar.Nesting
import RecordQuery.Proofs.Grammar.Numeral
import RecordQuery.Proofs.Grammar.Offset
import RecordQuery.Proofs.Grammar.Operands
import RecordQuery.Proofs.Grammar.Placement
import RecordQuery.Proofs.Grammar.Position
import RecordQuery.Proofs.Grammar.Reading
import RecordQuery.Proofs.Options.Acceptance
import RecordQuery.Proofs.Options.Admission
import RecordQuery.Proofs.Options.Answer
import RecordQuery.Proofs.Options.Application
import RecordQuery.Proofs.Options.Memo
import RecordQuery.Proofs.Options.Operations
import RecordQuery.Proofs.Options.Parameters
import RecordQuery.Proofs.Options.SortProperties
import RecordQuery.Proofs.Parse.Counting
import RecordQuery.Proofs.Parse.Guard
import RecordQuery.Proofs.Parse.Joining
import RecordQuery.Proofs.Parse.Number
import RecordQuery.Proofs.Parse.PropertyPath
import RecordQuery.Proofs.Parse.Recognition
import RecordQuery.Proofs.Parse.Unquantified
import RecordQuery.Proofs.Parse.Wrapping
import RecordQuery.Proofs.Pipeline.Filtering
import RecordQuery.Proofs.Pipeline.Ordering
import RecordQuery.Proofs.Pipeline.Refinement
import RecordQuery.Proofs.Pipeline.Reordering
import RecordQuery.Proofs.Pipeline.StableSort
import RecordQuery.Proofs.Pipeline.TermOrder
import RecordQuery.Proofs.Policy.AllowedSet
import RecordQuery.Proofs.Policy.Members
import RecordQuery.Proofs.Policy.RoundTrip
import RecordQuery.Proofs.Policy.Steps
import RecordQuery.Proofs.Schema.Build
import RecordQuery.Proofs.Schema.Errors
import RecordQuery.Proofs.Schema.Inheritance
import RecordQuery.Proofs.Schema.Lineage
import RecordQuery.Proofs.Schema.Resolution
import RecordQuery.Proofs.Schema.WellFormed
import RecordQuery.Proofs.Text.Basic
import RecordQuery.Proofs.Text.Bytes
import RecordQuery.Proofs.Text.Search
import RecordQuery.Proofs.Typing.Basic
import RecordQuery.Proofs.Typing.Binding
import RecordQuery.Proofs.Typing.Mentions
import RecordQuery.Proofs.Typing.Occurrence
import RecordQuery.Proofs.Typing.Operand
import RecordQuery.Proofs.Typing.Value
import RecordQuery.Proofs.Validate.Gate
import RecordQuery.Proofs.Validate.Trace
import RecordQuery.Proofs.Validate.Visit
import RecordQuery.Proofs.Value.Narrowing
import RecordQuery.Proofs.Value.SortOrder
import RecordQuery.Proofs.Value.Transitivity
import RecordQuery.Proofs.Value.Widening
import RecordQuery.QueryError
import RecordQuery.Record
import RecordQuery.Schema.Build
import RecordQuery.Schema.Codec
import RecordQuery.Schema.Model
import RecordQuery.Schema.Path
import RecordQuery.Schema.Type
import RecordQuery.Text.Blank
import RecordQuery.Text.CaseMap
import RecordQuery.Text.CaseTable
import RecordQuery.Text.Digits
import RecordQuery.Text.Hex
import RecordQuery.Text.Path
import RecordQuery.Text.Quoted
import RecordQuery.Text.Search
import RecordQuery.Text.VisibleTable
import RecordQuery.Validate.Expr
import RecordQuery.Validate.Hooks
import RecordQuery.Value.Basic
import RecordQuery.Value.Cast
import RecordQuery.Value.Codec
import RecordQuery.Value.Compare
import RecordQuery.Value.Text

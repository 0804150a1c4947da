import Stencil.Calendar.Date
import Stencil.Calendar.Format
import Stencil.Calendar.Instant
import Stencil.Calendar.Reading
import Stencil.Delimiters
import Stencil.Engine.Basic
import Stencil.Engine.Config
import Stencil.Entries
import Stencil.Expr.Basic
import Stencil.Expr.Lexeme
import Stencil.Expr.Parser
import Stencil.Function.Error
import Stencil.Function.Registry
import Stencil.Json.Basic
import Stencil.Json.Reading
import Stencil.Library.Arguments
import Stencil.Library.Arithmetic
import Stencil.Library.Dates
import Stencil.Library.Elements
import Stencil.Library.Patterns
import Stencil.Library.Records
import Stencil.Library.Rounding
import Stencil.Library.Sequences
import Stencil.Library.Standard
import Stencil.Library.Texts
import Stencil.Lookup
import Stencil.Number.Binary
import Stencil.Number.Decimal
import Stencil.Number.Grouping
import Stencil.Number.Reading
import Stencil.Number.Text
import Stencil.ParseError
import Stencil.Path.Basic
import Stencil.Path.Parser
import Stencil.Position
import Stencil.Query
import Stencil.Regex.Charset
import Stencil.Regex.FoldTable
import Stencil.Regex.Footprint
import Stencil.Regex.Matching
import Stencil.Regex.Parser
import Stencil.Regex.Problem
import Stencil.Regex.Program
import Stencil.Regex.Property
import Stencil.Regex.PropertyTable
import Stencil.Regex.Replacement
import Stencil.Regex.Runs
import Stencil.Regex.Syntax
import Stencil.Regex.WordTable
import Stencil.Render.Context
import Stencil.Render.Error
import Stencil.Render.Evaluation
import Stencil.Render.Operators
import Stencil.Render.Options
import Stencil.Render.Rendering
import Stencil.Sorting
import Stencil.Template.Basic
import Stencil.Template.Parser
import Stencil.Template.Statement
import Stencil.Text.Alphanumeric
import Stencil.Text.Blank
import Stencil.Text.Case
import Stencil.Text.CaseTable
import Stencil.Text.CasedTable
import Stencil.Text.Distance
import Stencil.Text.Escape
import Stencil.Text.HanTable
import Stencil.Text.LatinTable
import Stencil.Text.Markup
import Stencil.Text.Search
import Stencil.Text.Slug
import Stencil.Token
import Stencil.Value.Basic
import Stencil.Value.Compare
import Stencil.Value.Json
import Stencil.Proofs.Render.Bodies
import Stencil.Proofs.Expr.Bare
import Stencil.Proofs.Path.Shared
import Stencil.Proofs.Render.Scopes
import Stencil.Proofs.Render.Throwing
import Stencil.Proofs.Path.AsPath
import Stencil.Proofs.Expr.Reading
import Stencil.Proofs.Path.AsExpression
import Stencil.Proofs.Path.Following
import Stencil.Proofs.Path.Evaluating
import Stencil.Proofs.Path.Agreement
import Stencil.Proofs.Path.Nesting
import Stencil.Proofs.Token.Leftmost
import Stencil.Proofs.Token.Tiling
import Stencil.Proofs.Template.Filling
import Stencil.Proofs.Render.Totality
import Stencil.Proofs.Expr.Accounting
import Stencil.Proofs.Expr.Follow
import Stencil.Proofs.Expr.Writing
import Stencil.Proofs.Expr.Operands
import Stencil.Proofs.Expr.Lists
import Stencil.Proofs.Expr.Primaries
import Stencil.Proofs.Expr.ReadingBack
import Stencil.Proofs.Template.WellFormed
import Stencil.Proofs.Render.Mentions
import Stencil.Proofs.Expr.Deepest
import Stencil.Proofs.Template.Capping
import Stencil.Proofs.Template.Recovery
import Stencil.Proofs.Render.Budget
import Stencil.Proofs.Render.Selection
import Stencil.Proofs.Render.DepthCap
import Stencil.Proofs.Render.Iterations
import Stencil.Proofs.Render.Filtering
import Stencil.Proofs.Render.Walking
import Stencil.Proofs.Render.Malformed
import Stencil.Proofs.Template.Mirroring
import Stencil.Proofs.Token.Cutting
import Stencil.Proofs.Expr.Respacing
import Stencil.Proofs.Render.Ends
import Stencil.Proofs.Template.Containing
import Stencil.Proofs.Path.Spelling
import Stencil.Proofs.Path.Filtering
import Stencil.Proofs.Path.Bracketed
import Stencil.Proofs.Path.Printing
import Stencil.Proofs.Render.Literals
import Stencil.Proofs.Number.Ratios
import Stencil.Proofs.Number.Shortest
import Stencil.Proofs.Number.Floats
import Stencil.Proofs.Path.Positions
import Stencil.Proofs.Value.Documents
import Stencil.Proofs.Sorting.Elements
import Stencil.Proofs.Library.Grouping
import Stencil.Proofs.Library.Slicing
import Stencil.Proofs.Library.Generation
import Stencil.Proofs.Library.Uniqueness
import Stencil.Proofs.Library.Merging
import Stencil.Proofs.Library.Splitting
import Stencil.Proofs.Library.Escaping
import Stencil.Proofs.Number.Radix
import Stencil.Proofs.Value.Equivalence
import Stencil.Proofs.Function.Registrations
import Stencil.Proofs.Calendar.Conversion
import Stencil.Proofs.Library.Components
import Stencil.Proofs.Library.Months
import Stencil.Proofs.Library.Timestamps
import Stencil.Proofs.Library.Failures
import Stencil.Proofs.Library.Thousands

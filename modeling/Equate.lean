import Equate.Text.Basic
import Equate.Text.Blank
import Equate.Text.DecimalDigit
import Equate.Text.WordCharacter
import Equate.Number.Decimal
import Equate.Number.Plain
import Equate.Json.Basic
import Equate.Json.Numeral
import Equate.Json.Parser
import Equate.Json.Printer
import Equate.Expr.Basic
import Equate.Expr.Parser
import Equate.Name.Piece
import Equate.Conversion.Tag
import Equate.Failure
import Equate.Json.Record
import Equate.Unit.Catalog
import Equate.Unit.Conversion
import Equate.Bound
import Equate.Directive.Extraction
import Equate.Equation
import Equate.Parameter.Extraction
import Equate.Problem.Basic
import Equate.Problem.Source
import Equate.Failure.Document
import Equate.Settings
import Equate.Solver.Call
import Equate.Problem.Document
import Equate.Files.Basic
import Equate.Files.Document
import Equate.Files.Usual
import Equate.Shell.Start
import Equate.CommandLine.Arguments
import Equate.CommandLine.Run
import Equate.Main
import Equate.Proofs.Conversion.Lines
import Equate.Proofs.Conversion.Tagless
import Equate.Proofs.Directive.Reading
import Equate.Proofs.Directive.Return
import Equate.Proofs.Expr.Grammar
import Equate.Proofs.Expr.Spelling
import Equate.Proofs.Expr.Substitution
import Equate.Proofs.Directive.Keyword
import Equate.Proofs.Directive.Number
import Equate.Proofs.Name.Calls
import Equate.Proofs.Name.Glued
import Equate.Proofs.Name.Pieces
import Equate.Proofs.Name.Span
import Equate.Proofs.Number.Binary64
import Equate.Proofs.Number.RoundTrip
import Equate.Proofs.Parameter.Reachable
import Equate.Proofs.Parameter.Substitution
import Equate.Proofs.Problem.EquationNames
import Equate.Proofs.Problem.LineByLine
import Equate.Proofs.Problem.WellFormed
import Equate.Proofs.Text.Part
import Equate.Proofs.Problem.SolverReady
import Equate.Proofs.Directive.Written
import Equate.Proofs.Name.Map
import Equate.Proofs.Parameter.Redefinition
import Equate.Proofs.Problem.Written
import Equate.Proofs.Number.Overflow
import Equate.Proofs.Problem.Finite
import Equate.Proofs.Json.Document
import Equate.Proofs.Json.Record
import Equate.Proofs.Problem.Document
import Equate.Proofs.Number.Arithmetic
import Equate.Proofs.Json.Number
import Equate.Proofs.Json.Range
import Equate.Proofs.Expr.Phrase
import Equate.Proofs.Problem.Replay
import Equate.Proofs.Problem.LineOrder
import Equate.Proofs.Solver.Call
import Equate.Proofs.Problem.FaultLines
import Equate.Proofs.Problem.LineEnds
import Equate.Proofs.Problem.DirectiveLines
import Equate.Proofs.Parameter.Repetition
import Equate.Proofs.Failure.Document
import Equate.Proofs.CommandLine.Agreement
import Equate.Proofs.Number.Sign
import Equate.Proofs.Unit.Factor
import Equate.Proofs.Unit.Lookup
import Equate.Proofs.Conversion.Literal
import Equate.Proofs.Conversion.Span
import Equate.Proofs.Name.Numeral
import Equate.Proofs.Expr.Layout
import Equate.Proofs.Expr.Lexeme
import Equate.Proofs.Problem.NumberEnds
import Equate.Proofs.Expr.Visits
import Equate.Proofs.Problem.LastWritten
import Equate.Proofs.Number.Literal
import Equate.Proofs.Directive.Form
import Equate.Proofs.Directive.Grammar
import Equate.Proofs.Directive.Target
import Equate.Proofs.Number.Value
import Equate.Proofs.Number.Difference
import Equate.Proofs.Unit.Composition
import Equate.Proofs.Unit.Symbols
import Equate.Proofs.Unit.Generation
import Equate.Proofs.Files.Replacement
import Equate.Proofs.Files.Tree
import Equate.Proofs.Unit.Agreement
import Equate.Proofs.Unit.Reordering

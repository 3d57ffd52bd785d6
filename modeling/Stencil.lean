import Stencil.Command
import Stencil.Cursor
import Stencil.Decimal
import Stencil.Decimal.Printer
import Stencil.Decimal.Reader
import Stencil.Decimal.Rounding
import Stencil.Delimiters
import Stencil.Diagnostic
import Stencil.Document
import Stencil.Expression
import Stencil.Journal
import Stencil.Main
import Stencil.Node
import Stencil.Node.Equality
import Stencil.Node.Fingerprint
import Stencil.Operator
import Stencil.Path
import Stencil.Position
import Stencil.Report
import Stencil.Settings
import Stencil.Template
import Stencil.Text
import Stencil.Text.Blank
import Stencil.Text.Printable
import Stencil.Text.Quoted
import Stencil.Text.Ranges
import Stencil.Text.Utf8
import Stencil.Text.Word
import Stencil.Token
import Stencil.Token.Scanner
import Stencil.Token.Session
import Stencil.Value
import Stencil.Value.Display
import Stencil.Value.Json
import Stencil.Vocabulary
import Stencil.Yaml
import Stencil.Yaml.Character
import Stencil.Yaml.Fault
import Stencil.Yaml.Literal
import Stencil.Yaml.Meaning
import Stencil.Yaml.Node
import Stencil.Yaml.Plain
import Stencil.Yaml.Quoted
import Stencil.Yaml.Scalar
import Stencil.Yaml.Token
import Stencil.Yaml.Token.Scanner
import Stencil.Proofs.Block
import Stencil.Proofs.Structure
import Stencil.Proofs.Phrase
import Stencil.Proofs.Phrase.Rules
import Stencil.Proofs.Progress
import Stencil.Proofs.Segment
import Stencil.Proofs.Success
import Stencil.Proofs.Acceptance
import Stencil.Proofs.Structure.Explanation
import Stencil.Proofs.Structure.Soundness
import Stencil.Proofs.Structure.Completeness
import Stencil.Proofs.Inclusion
import Stencil.Proofs.Lexeme
import Stencil.Proofs.Precedence
import Stencil.Proofs.Filter
import Stencil.Proofs.Insertion
import Stencil.Proofs.Numeral
import Stencil.Proofs.Quotation
import Stencil.Proofs.Spelling
import Stencil.Proofs.Printer
import Stencil.Proofs.Printer.Expression
import Stencil.Proofs.Printer.Segment
import Stencil.Proofs.Printer.Document
import Stencil.Proofs.RoundTrip
import Stencil.Proofs.Scanning
import Stencil.Proofs.Place
import Stencil.Proofs.Location
import Stencil.Proofs.Failure
import Stencil.Proofs.Failure.Document
import Stencil.Proofs.Reporting
import Stencil.Proofs.Reporting.Output
import Stencil.Proofs.Reporting.Command
import Stencil.Proofs.Conservation
import Stencil.Proofs.Continuation.Lexeme
import Stencil.Proofs.Continuation.Expression
import Stencil.Proofs.Continuation.Segment
import Stencil.Proofs.Concatenation.Parts
import Stencil.Proofs.Concatenation.Boundary
import Stencil.Proofs.Concatenation
import Stencil.Proofs.Allowance
import Stencil.Proofs.Allowance.Document
import Stencil.Proofs.Limit
import Stencil.Proofs.CallDepth
import Stencil.Proofs.RightOperand
import Stencil.Proofs.Outline
import Stencil.Proofs.Outline.Tree
import Stencil.Proofs.NormalForm
import Stencil.Proofs.NormalForm.Expression
import Stencil.Proofs.NormalForm.Document
import Stencil.Proofs.NormalForm.Selection
import Stencil.Proofs.Pragma.Change
import Stencil.Proofs.Termination.Loop
import Stencil.Proofs.Termination.Recursion
import Stencil.Proofs.Termination
import Stencil.Proofs.Elsewhere
import Stencil.Proofs.Elsewhere.Document
import Stencil.Proofs.Pragma.Writing
import Stencil.Proofs.Pragma.Stopping
import Stencil.Proofs.Pragma
import Stencil.Proofs.Comment
import Stencil.Proofs.Session
import Stencil.Proofs.Excerpt
import Stencil.Proofs.Conditional
import Stencil.Proofs.Checked
import Stencil.Proofs.Checked.Document
import Stencil.Proofs.Checked.Expression
import Stencil.Proofs.Checked.Agreement
import Stencil.Proofs.Quotation.Acceptance
import Stencil.Proofs.Numeral.Grammar
import Stencil.Proofs.Numeral.Value
import Stencil.Proofs.Numeral.Acceptance
import Stencil.Proofs.Decimal.Rational
import Stencil.Proofs.Utf8
import Stencil.Proofs.Utf8.Place
import Stencil.Proofs.Decimal.Negation
import Stencil.Proofs.Decimal.Overflow
import Stencil.Proofs.SignedNumber
import Stencil.Proofs.Tokenization
import Stencil.Proofs.Decimal.Canonical
import Stencil.Proofs.NormalForm.Literal
import Stencil.Proofs.Numeral.Report
import Stencil.Proofs.Ambiguity.Document
import Stencil.Proofs.Respacing.Document
import Stencil.Proofs.Equality
import Stencil.Proofs.Equality.Congruence
import Stencil.Proofs.Fingerprint
import Stencil.Proofs.Settings
import Stencil.Proofs.Settings.Layering
import Stencil.Proofs.Line
import Stencil.Proofs.Line.Expression
import Stencil.Proofs.Line.Document
import Stencil.Proofs.Line.Diagnostic

import PrefixCalc.CommandLine
import PrefixCalc.Double.Arithmetic
import PrefixCalc.Double.Decimal
import PrefixCalc.Double.Numeral
import PrefixCalc.Double.Rank
import PrefixCalc.Double.Written
import PrefixCalc.Environment
import PrefixCalc.Escape
import PrefixCalc.Eval
import PrefixCalc.Event
import PrefixCalc.Expr
import PrefixCalc.Expr.Calls
import PrefixCalc.Fault
import PrefixCalc.Functions
import PrefixCalc.Functions.Recursion
import PrefixCalc.Main
import PrefixCalc.Operator
import PrefixCalc.ParseError
import PrefixCalc.Parser
import PrefixCalc.Reading
import PrefixCalc.Session
import PrefixCalc.Table
import PrefixCalc.Text.Blank
import PrefixCalc.Text.CodePoint
import PrefixCalc.Text.Column
import PrefixCalc.Text.Digit
import PrefixCalc.Text.Letter
import PrefixCalc.Text.Line
import PrefixCalc.Text.Printable
import PrefixCalc.Text.Quoted
import PrefixCalc.Text.Segment
import PrefixCalc.Token
import PrefixCalc.Token.Buffer
import PrefixCalc.Token.Listing
import PrefixCalc.Token.Scan
import PrefixCalc.Trace
import PrefixCalc.Value
import PrefixCalc.Variables
import PrefixCalc.Proofs.CallGraph
import PrefixCalc.Proofs.Evaluation
import PrefixCalc.Proofs.Reached
import PrefixCalc.Proofs.Budget
import PrefixCalc.Proofs.Parts
import PrefixCalc.Proofs.Termination
import PrefixCalc.Proofs.Grammar
import PrefixCalc.Proofs.Acceptance
import PrefixCalc.Proofs.Parsing
import PrefixCalc.Proofs.Guards
import PrefixCalc.Proofs.Answers
import PrefixCalc.Proofs.Phrase
import PrefixCalc.Proofs.Nesting
import PrefixCalc.Proofs.Forms
import PrefixCalc.Proofs.Completion
import PrefixCalc.Proofs.Lines
import PrefixCalc.Proofs.HeldBack
import PrefixCalc.Proofs.Frame
import PrefixCalc.Proofs.Parallel
import PrefixCalc.Proofs.Relevance
import PrefixCalc.Proofs.Steering
import PrefixCalc.Proofs.DefinitionOrder
import PrefixCalc.Proofs.Modes
import PrefixCalc.Proofs.Refusal
import PrefixCalc.Proofs.Recovery
import PrefixCalc.Proofs.Events
import PrefixCalc.Proofs.Taking
import PrefixCalc.Proofs.Last
import PrefixCalc.Proofs.Inspection
import PrefixCalc.Proofs.Culprit
import PrefixCalc.Proofs.Separators
import PrefixCalc.Proofs.Scanning
import PrefixCalc.Proofs.Bits
import PrefixCalc.Proofs.Rounding
import PrefixCalc.Proofs.Positional
import PrefixCalc.Proofs.NumberText
import PrefixCalc.Proofs.CallOrder
import PrefixCalc.Proofs.Passing
import PrefixCalc.Proofs.Limits
import PrefixCalc.Proofs.Columns
import PrefixCalc.Proofs.Listing
import PrefixCalc.Proofs.Progress

import Reckon.Decimal.Hundredths
import Reckon.Decimal.Layout
import Reckon.Token.Lexer
import Reckon.Expr.Parser
import Reckon.Expr.Sexpr
import Reckon.Expr.Eval
import Reckon.Calculator
import Reckon.Log.Filter
import Reckon.Log.Line
import Reckon.Log.Library
import Reckon.Log.Directives
import Reckon.Session.Process
import Reckon.Session.Basic
import Reckon.Proofs.Reader
import Reckon.Proofs.Munch
import Reckon.Proofs.PostOrder
import Reckon.Proofs.Words
import Reckon.Proofs.TooLong
import Reckon.Proofs.ParserTrees
import Reckon.Proofs.ParseGrammar
import Reckon.Proofs.FirstOffender
import Reckon.Proofs.Nearest
import Reckon.Proofs.Hundredths
import Reckon.Proofs.Evaluation
import Reckon.Proofs.Rendering
import Reckon.Proofs.Shift
import Reckon.Proofs.Composition
import Reckon.Proofs.NodePass
import Reckon.Proofs.Longest
import Reckon.Proofs.Partition
import Reckon.Proofs.Spaced
import Reckon.Proofs.Located
import Reckon.Proofs.Operands
import Reckon.Proofs.InfixReading
import Reckon.Proofs.ResultText
import Reckon.Proofs.Outcomes
import Reckon.Proofs.ReadOn
import Reckon.Proofs.Extension
import Reckon.Proofs.Alike
import Reckon.Proofs.Faultless
import Reckon.Proofs.Respaced
import Reckon.Proofs.CStrings
import Reckon.Proofs.Printed
import Reckon.Proofs.Answers
import Reckon.Proofs.Independence
import Reckon.Proofs.Reports
import Reckon.Proofs.Messages
import Reckon.Proofs.Installing
import Reckon.Proofs.LogLines
import Reckon.Proofs.Logged
import Reckon.Proofs.OneLine
import Reckon.Proofs.FirstTrouble
import Reckon.Proofs.NearestEven
import Reckon.Proofs.Rationals
import Reckon.Proofs.RoundedResults
import Reckon.Proofs.NearestNumber
import Reckon.Proofs.Literals
import Reckon.Proofs.ShortestDigits
import Reckon.Proofs.ReadBack
import Reckon.Proofs.Walks
import Reckon.Proofs.UniqueReading
import Reckon.Proofs.NonFinite
import Reckon.Proofs.Allocation
import Reckon.Proofs.Descent
import Reckon.Proofs.Readings
import Reckon.Proofs.Budgets
import Reckon.Proofs.Progress
import Reckon.Proofs.Lookahead
import Reckon.Proofs.NodeIds

import IntScript.CommandLine.Directory
import IntScript.Main
import IntScript.Representable
import IntScript.Statement.Grammar
import IntScript.Statement.Names
import IntScript.Proofs.Expr.Derivation
import IntScript.Proofs.Statement.Derivation
import IntScript.Proofs.Token.Concatenation
import IntScript.Proofs.Expr.Canonical
import IntScript.Proofs.Source
import IntScript.Proofs.Statement.Canonical
import IntScript.Proofs.Text.Lines
import IntScript.Proofs.RoundTrip
import IntScript.Proofs.Token.Restart
import IntScript.Proofs.Token.Cursor
import IntScript.Proofs.Execution.Ideal
import IntScript.Proofs.Execution.Truncation
import IntScript.Proofs.Expr.ViablePrefix
import IntScript.Proofs.Execution.LineByLine
import IntScript.Proofs.Expr.Economy
import IntScript.Proofs.Source.Concatenation
import IntScript.Proofs.Environment
import IntScript.Proofs.Statement.Names
import IntScript.Proofs.Execution.Progress
import IntScript.Proofs.Execution.Noninterference
import IntScript.Proofs.Execution.DefiniteAssignment
import IntScript.Proofs.Log.Replay
import IntScript.Proofs.CommandLine.Tokens
import IntScript.Proofs.Expr.FirstFailure
import IntScript.Proofs.Source.Refusal
import IntScript.Proofs.CommandLine.TokenText
import IntScript.Proofs.Log.OneLine
import IntScript.Proofs.Log.Logger
import IntScript.Proofs.CommandLine.Streams
import IntScript.Proofs.Expr.Substitution
import IntScript.Proofs.Execution.Rearrangement
import IntScript.Proofs.Token.Alphabet
import IntScript.Proofs.Token.Tiling
import IntScript.Proofs.Token.Layout
import IntScript.Proofs.Expr.Lookahead
import IntScript.Proofs.Text.Decimal
import IntScript.Proofs.Literals
import IntScript.Proofs.Source.Terminators
import IntScript.Proofs.Environment.Operations
import IntScript.Proofs.Expr.Descent
import IntScript.Proofs.Expr.Inventory

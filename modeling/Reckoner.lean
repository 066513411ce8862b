import Reckoner.Main
import Reckoner.Proofs.Evaluation
import Reckoner.Proofs.Evaluation.Safety
import Reckoner.Proofs.Evaluation.Unresolved
import Reckoner.Proofs.Expr.Budget
import Reckoner.Proofs.Expr.Climbing
import Reckoner.Proofs.Expr.Grammar
import Reckoner.Proofs.Expr.Grouping
import Reckoner.Proofs.Expr.Language
import Reckoner.Proofs.Expr.Meaning
import Reckoner.Proofs.Expr.Onward
import Reckoner.Proofs.Expr.Outcome
import Reckoner.Proofs.Expr.Passage
import Reckoner.Proofs.Expr.Places
import Reckoner.Proofs.Expr.Printing
import Reckoner.Proofs.Expr.Recognition
import Reckoner.Proofs.Expr.Refusal
import Reckoner.Proofs.Expr.Shape
import Reckoner.Proofs.Expr.Statement
import Reckoner.Proofs.Expr.Written
import Reckoner.Proofs.IR.Lookup
import Reckoner.Proofs.IR.Names
import Reckoner.Proofs.IR.Registry
import Reckoner.Proofs.IR.Renaming
import Reckoner.Proofs.IR.Text
import Reckoner.Proofs.IR.Valid
import Reckoner.Proofs.Llvm
import Reckoner.Proofs.Llvm.Standard
import Reckoner.Proofs.Lowering.Code
import Reckoner.Proofs.Lowering.Correctness
import Reckoner.Proofs.Lowering.Declaring
import Reckoner.Proofs.Lowering.Effect
import Reckoner.Proofs.Lowering.Execution
import Reckoner.Proofs.Lowering.Expression
import Reckoner.Proofs.Lowering.Faults
import Reckoner.Proofs.Lowering.Flow
import Reckoner.Proofs.Lowering.Places
import Reckoner.Proofs.Lowering.Program
import Reckoner.Proofs.Lowering.Simulation
import Reckoner.Proofs.Lowering.Statement
import Reckoner.Proofs.Lowering.Trace
import Reckoner.Proofs.Lowering.Valid
import Reckoner.Proofs.Lowering.WellFormed
import Reckoner.Proofs.Lowering.Writing
import Reckoner.Proofs.Machine
import Reckoner.Proofs.Machine.Safety
import Reckoner.Proofs.Session
import Reckoner.Proofs.Session.BareExpressions
import Reckoner.Proofs.Session.Constructs
import Reckoner.Proofs.Session.Events
import Reckoner.Proofs.Session.Growth
import Reckoner.Proofs.Session.Interruption
import Reckoner.Proofs.Session.Layout
import Reckoner.Proofs.Session.Moves
import Reckoner.Proofs.Session.Notices
import Reckoner.Proofs.Session.Omission
import Reckoner.Proofs.Session.Prompts
import Reckoner.Proofs.Session.Registry
import Reckoner.Proofs.Session.Rounds
import Reckoner.Proofs.Session.Runs
import Reckoner.Proofs.Session.Separators
import Reckoner.Proofs.Session.Values
import Reckoner.Proofs.Token.Characters
import Reckoner.Proofs.Token.Cutting
import Reckoner.Proofs.Token.Delivery
import Reckoner.Proofs.Token.Lookahead
import Reckoner.Proofs.Token.Lossless
import Reckoner.Proofs.Token.Munch
import Reckoner.Proofs.Token.Names
import Reckoner.Proofs.Token.Reads
import Reckoner.Proofs.Token.Spacing
import Reckoner.Proofs.Token.Supply
import Reckoner.Proofs.Token.Texts
import Reckoner.Proofs.Token.Words

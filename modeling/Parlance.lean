import Parlance.Main
import Parlance.Session
import Parlance.Proofs.Command.Account
import Parlance.Proofs.Command.Failure
import Parlance.Proofs.Command.Order
import Parlance.Proofs.Location
import Parlance.Proofs.Report
import Parlance.Proofs.Span
import Parlance.Proofs.Tail
import Parlance.Proofs.Guarded
import Parlance.Proofs.Iteration
import Parlance.Proofs.Congruence
import Parlance.Proofs.NestedChoice
import Parlance.Proofs.Interchange
import Parlance.Proofs.Exclusive
import Parlance.Proofs.PrefixFree
import Parlance.Proofs.Attempts
import Parlance.Proofs.LeadingBlanks
import Parlance.Proofs.SolidToken
import Parlance.Proofs.Token.Word
import Parlance.Proofs.Token.Spelling
import Parlance.Proofs.Pattern
import Parlance.Proofs.Token.Mention
import Parlance.Proofs.Command.Positional
import Parlance.Proofs.Command.Declaration
import Parlance.Proofs.Literal
import Parlance.Proofs.Shadowing
import Parlance.Proofs.Value
import Parlance.Proofs.CommandLine.Delivery
import Parlance.Proofs.CommandLine.Line
import Parlance.Proofs.CommandLine.Run
import Parlance.Proofs.Boundary

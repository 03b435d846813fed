import SnippetReview.Proofs.Checker.ColonRepair
import SnippetReview.Proofs.Checker.Column
import SnippetReview.Proofs.Checker.Composition
import SnippetReview.Proofs.Checker.Condition
import SnippetReview.Proofs.Checker.Detail
import SnippetReview.Proofs.Checker.JavaScript
import SnippetReview.Proofs.Checker.Leniency
import SnippetReview.Proofs.Checker.MainReturns
import SnippetReview.Proofs.Checker.Naming
import SnippetReview.Proofs.Checker.Order
import SnippetReview.Proofs.Checker.Print
import SnippetReview.Proofs.Checker.SemicolonRepair
import SnippetReview.Proofs.Checker.SimpleStatement
import SnippetReview.Proofs.Checker.Spacing
import SnippetReview.Proofs.Checker.UnexpectedToken
import SnippetReview.Proofs.Evaluate
import SnippetReview.Proofs.Language
import SnippetReview.Proofs.Script.Problem
import SnippetReview.Proofs.Serialization
import SnippetReview.Proofs.Server.Analyze
import SnippetReview.Proofs.Server.Basic
import SnippetReview.Proofs.Server.Failure
import SnippetReview.Proofs.Server.Log
import SnippetReview.Proofs.Server.Login
import SnippetReview.Proofs.Server.Rejection
import SnippetReview.Proofs.Settings.CommaList
import SnippetReview.Proofs.Settings.Load
import SnippetReview.Proofs.Token.Canonical
import SnippetReview.Proofs.Token.Issue
import SnippetReview.Proofs.Verdict
import SnippetReview.Script.Parse
import SnippetReview.Server.Basic
import SnippetReview.Token.Clock

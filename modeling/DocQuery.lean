import DocQuery.Main
import DocQuery.Proofs.Lexing.TwoPass
import DocQuery.Proofs.Query.Grammar
import DocQuery.Proofs.Query.Filing
import DocQuery.Proofs.Query.RoundTrip
import DocQuery.Proofs.Lexing.Lines
import DocQuery.Proofs.Lexing.Rewriting
import DocQuery.Proofs.Lexing.Comments
import DocQuery.Proofs.Lexing.Resting
import DocQuery.Proofs.Query.Drafts
import DocQuery.Proofs.Query.Layout
import DocQuery.Proofs.Query.Rereading
import DocQuery.Proofs.Decimal.Rounding
import DocQuery.Proofs.Decimal.Written
import DocQuery.Proofs.Json.NumberOrder
import DocQuery.Proofs.Store.Answers
import DocQuery.Proofs.Lexing.Failures
import DocQuery.Proofs.Lexing.Selection
import DocQuery.Proofs.Lexing.Renewal
import DocQuery.Proofs.Lexing.Sources
import DocQuery.Proofs.Query.Refusals
import DocQuery.Proofs.Lexing.ArrayItems
import DocQuery.Proofs.Lexing.WellFormed
import DocQuery.Proofs.Query.FilterDrafts
import DocQuery.Proofs.Evaluation.Groups
import DocQuery.Proofs.Evaluation.Membership
import DocQuery.Proofs.Decimal.Overflow
import DocQuery.Proofs.Json.Numerals
import DocQuery.Proofs.Evaluation.Faults
import DocQuery.Proofs.Json.Equality
import DocQuery.Proofs.Evaluation.Orderings
import DocQuery.Proofs.Evaluation.Paths
import DocQuery.Proofs.Store.Rows
import DocQuery.Proofs.Store.Renaming

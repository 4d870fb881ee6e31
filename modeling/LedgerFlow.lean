import LedgerFlow.App
import LedgerFlow.Argument.Decode
import LedgerFlow.Log.Line
import LedgerFlow.Proofs.Flow.Tree
import LedgerFlow.Proofs.Schema.InPlace
import LedgerFlow.Spec.Encode
import LedgerFlow.Proofs.App.Erasure
import LedgerFlow.Proofs.App.Independence
import LedgerFlow.Proofs.Argument.Delimited
import LedgerFlow.Proofs.Number.Integer
import LedgerFlow.Proofs.Argument.Listed
import LedgerFlow.Proofs.Argument.RoundTrip
import LedgerFlow.Proofs.Argument.Declarable
import LedgerFlow.Proofs.Schema.Leftover
import LedgerFlow.Proofs.Schema.Canonical
import LedgerFlow.Proofs.Schema.Failure
import LedgerFlow.Proofs.App.References
import LedgerFlow.Proofs.App.Correspondence
import LedgerFlow.Proofs.App.Reordered
import LedgerFlow.Proofs.App.WellFormed
import LedgerFlow.Proofs.Argument.Decoding
import LedgerFlow.Proofs.Schema.PassBound
import LedgerFlow.Proofs.Schema.Refusal
import LedgerFlow.Proofs.App.ForeignFailure
import LedgerFlow.Proofs.Schema.Reach
import LedgerFlow.Proofs.Graph.Numbered
import LedgerFlow.Proofs.Graph.Refusal
import LedgerFlow.Proofs.Graph.Appended
import LedgerFlow.Proofs.Graph.Preorder
import LedgerFlow.Proofs.Schema.Inferred
import LedgerFlow.Proofs.Schema.Listing
import LedgerFlow.Proofs.Text.SnakeCase
import LedgerFlow.Proofs.App.Identity
import LedgerFlow.Proofs.App.StepInputs
import LedgerFlow.Proofs.Argument.Numbers
import LedgerFlow.Proofs.Spec.Written
import LedgerFlow.Proofs.Argument.Implied
import LedgerFlow.Proofs.Graph.Placeholder

import SwapPlan.LogFilter
import SwapPlan.Main
import SwapPlan.Proofs.Ledger.Closing
import SwapPlan.Proofs.Ledger.Guarantee
import SwapPlan.Proofs.Ledger.Minimum
import SwapPlan.Proofs.Ledger.Payout
import SwapPlan.Proofs.Path.Packed
import SwapPlan.Proofs.Path.Boosted
import SwapPlan.Proofs.Abi.RoundTrip
import SwapPlan.Proofs.Command
import SwapPlan.Proofs.Calldata
import SwapPlan.Proofs.Calldata.Text
import SwapPlan.Proofs.Encode.Call
import SwapPlan.Proofs.Path.Hops
import SwapPlan.Proofs.Quote.Batch
import SwapPlan.Proofs.Quote.Mirror
import SwapPlan.Proofs.Snapshot.Route
import SwapPlan.Proofs.Snapshot.Call
import SwapPlan.Proofs.Trade.Budgets
import SwapPlan.Proofs.Encode.Plannable
import SwapPlan.Proofs.Encode.Pooled
import SwapPlan.Proofs.Plan.Edits
import SwapPlan.Proofs.Plan.Nested
import SwapPlan.Proofs.Encode.Draft
import SwapPlan.Proofs.Route.SinglePool
import SwapPlan.Proofs.Slippage
import SwapPlan.Proofs.Quote.Outputs
import SwapPlan.Proofs.Quote.Walk
import SwapPlan.Proofs.Quote.Wire
import SwapPlan.Proofs.Json.Route

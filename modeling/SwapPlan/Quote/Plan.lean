import SwapPlan.Encode.Route
import SwapPlan.Path.Boosted

/-!
Plans for the quoting interpreter. They run the commands of a route without bounds, inside the
router, and give one output for each command.
-/

namespace SwapPlan

/-- The form of a command's output. -/
inductive OutputKind
  | swap | vault
deriving DecidableEq

/-- The amounts of a quoted route, command by command. -/
structure QuoteResult where
  amountsOut : List Amount
  amountsIn : List Amount
  sqrtPrices : List (List (BitVec 160))
  gasEstimate : Amount
  fees : List UInt32
deriving DecidableEq

namespace QuoteResult

def amountIn (r : QuoteResult) : Amount := r.amountsIn.head?.getD 0

def amountOut (r : QuoteResult) : Amount := r.amountsOut.getLast?.getD 0

end QuoteResult

/-- A plan, the forms of its outputs, and what was asked. -/
structure QuotePlan where
  plan : Plan
  outputs : List OutputKind
  fees : List UInt32
  tradeType : TradeType
  amount : Amount
deriving DecidableEq

namespace QuotePlan

open Abi (Layout)

/-- What a swap of `amount` costs or yields, without a bound. -/
def unbounded (t : TradeType) (path : SwapPath) (amount : Amount) : Command :=
  .swap t path Sentinel.router amount 0

/-- The commands of steps of which the first spends `amount`. -/
def stepCommands (amount : Amount) (steps : List Step) : Except Error (List Command) :=
  steps.zipIdx.mapM fun (s, i) =>
    s.command .exactInput Sentinel.router (if i = 0 then amount else Sentinel.wholeBalance) 0

def stepOutputs (steps : List Step) : List OutputKind :=
  steps.map fun s => if s.isSwap then .swap else .vault

/-- The commands that quote an amount through a route, with the forms of their outputs. With a
fixed output, a boosted route is quoted by one command over its whole boosted path. -/
def commands (amount : Amount) (t : TradeType) :
    Route → Except Error (List Command × List OutputKind)
  | .pooled r => do return ([unbounded t (← SwapPath.ofRoute r t) amount], [.swap])
  | .boosted r =>
    match t with
    | .exactInput => do return (← stepCommands amount r.steps, stepOutputs r.steps)
    | .exactOutput =>
      if r.swapCount = 0 then .error .vaultOnlyExactOutput
      else do
        let path ← Path.BoostedHop.encodeRoute r
        return ([.boostedSwapExactOut path Sentinel.router amount 0], [.swap])

def ofRoute (r : Route) (amount : Amount) (t : TradeType) : Except Error QuotePlan := do
  let (cs, outputs) ← commands amount t r
  return ⟨.ofCommands cs, outputs, r.pools.map Pool.fee, t, amount⟩

/-! ### Outputs -/

/-- The amount, the prices after each pool and the gas of a swap. -/
def swapOutput : Layout (Amount × List (BitVec 160) × Amount) :=
  Layout.uint 256 * (Layout.array (Layout.uint 160) * Layout.uint 256)

def vaultOutput : Layout Amount := Layout.uint 256

/-- What one output tells: an amount, prices and gas. -/
structure Output where
  amount : Amount
  sqrtPrices : List (BitVec 160)
  gas : Amount

def decodeSwap (raw : Bytes) : Except Error Output :=
  match swapOutput.decode raw with
  | some (amount, prices, gas) => .ok ⟨amount, prices, gas⟩
  | none => .error .swapOutputUndecodable

def decodeVault (raw : Bytes) : Except Error Output :=
  match vaultOutput.decode raw with
  | some amount => .ok ⟨amount, [], 0⟩
  | none => .error .vaultOutputUndecodable

def decodeOutput : OutputKind → Bytes → Except Error Output
  | .swap => decodeSwap
  | .vault => decodeVault

/-- The result that the outputs of a plan spell. With a fixed input, each command spends what the
one before put out. -/
def decode (q : QuotePlan) (raw : List Bytes) : Except Error QuoteResult :=
  if raw.length ≠ q.outputs.length then .error (.outputCount raw.length q.outputs.length)
  else do
    let outputs ← (q.outputs.zip raw).mapM fun (kind, bs) => decodeOutput kind bs
    let amounts := outputs.map Output.amount
    let (amountsIn, amountsOut) := match q.tradeType with
      | .exactInput => ((q.amount :: amounts).take amounts.length, amounts)
      | .exactOutput => (amounts, amounts.map fun _ => q.amount)
    return {
      amountsOut, amountsIn
      sqrtPrices := outputs.map Output.sqrtPrices
      gasEstimate := Amount.sumCapped (outputs.map Output.gas)
      fees := q.fees }

end QuotePlan

end SwapPlan

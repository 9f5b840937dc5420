import SwapPlan.Quote.Plan

/-!
Quoting routes by asking an interpreter and the vaults. Both are given as functions in any monad;
the questions and their order are what this module decides.
-/

namespace SwapPlan

/-- The commands and inputs of a plan to be simulated. -/
structure QuoteCall where
  commands : Bytes
  inputs : List Bytes
deriving DecidableEq

def Plan.quoteCall (p : Plan) : QuoteCall := ⟨p.commands, p.inputs⟩

/-- An interpreter that simulates plans. In a batch a plan that fails gives nothing. -/
structure QuoterBackend (m : Type → Type) where
  execute : QuoteCall → ExceptT Error m (List Bytes)
  executeBatch : List QuoteCall → ExceptT Error m (List (Option (List Bytes)))

/-- The conversions that a vault previews. -/
inductive PreviewMethod
  | deposit | mint | withdraw | redeem
deriving DecidableEq

/-- What a vault would give or take for an amount. -/
structure VaultPreview (m : Type → Type) where
  preview : PreviewMethod → Address → Amount → ExceptT Error m Amount

structure QuoteRequest where
  route : Route
  amount : Amount
  tradeType : TradeType

/-- What every step of a route takes in and puts out. -/
structure StepAmounts where
  amountsIn : List Amount
  amountsOut : List Amount
deriving DecidableEq

def StepAmounts.amountIn (s : StepAmounts) : Amount := s.amountsIn.head?.getD 0

namespace Quoter

variable {m : Type → Type} [Monad m] (backend : QuoterBackend m) (vaults : VaultPreview m)

/-- The input that a step needs for an output. -/
def stepInput (s : Step) (out : Amount) : ExceptT Error m Amount :=
  match s with
  | .unwrap v => vaults.preview .withdraw v.address out
  | .wrap v => vaults.preview .mint v.address out
  | .swap a b p => do
    let path ← SwapPath.ofSwap a b p .exactOutput
    let plan := Plan.ofCommands [QuotePlan.unbounded .exactOutput path out]
    let outputs ← backend.execute plan.quoteCall
    match outputs.head? with
    | none => throw .noOutput
    | some raw => return (← QuotePlan.decodeSwap raw).amount

/-- Inputs and outputs of steps whose last puts out `out`, and the input of the first. Later steps
are asked first. -/
def chain (out : Amount) : List Step → ExceptT Error m (List (Amount × Amount) × Amount)
  | [] => return ([], out)
  | s :: steps => do
    let (amounts, needed) ← chain out steps
    let input ← stepInput backend vaults s needed
    return ((input, needed) :: amounts, input)

/-- The amounts of every step of a route that delivers `out`. -/
def stepAmounts (r : BoostedRoute) (out : Amount) : ExceptT Error m StepAmounts := do
  let (amounts, _) ← chain backend vaults out r.steps
  return ⟨amounts.map Prod.fst, amounts.map Prod.snd⟩

/-- A route without a swap that is quoted for a fixed output. -/
def previewed? (r : Route) (t : TradeType) : Option BoostedRoute :=
  match r with
  | .boosted b => if t = .exactOutput ∧ b.swapCount = 0 then some b else none
  | .pooled _ => none

def quote (q : QuoteRequest) : ExceptT Error m QuoteResult :=
  match previewed? q.route q.tradeType with
  | some r => do
    let steps ← stepAmounts backend vaults r q.amount
    return ⟨steps.amountsOut, steps.amountsIn, steps.amountsOut.map fun _ => [], 0, []⟩
  | none => do
    let plan ← QuotePlan.ofRoute q.route q.amount q.tradeType
    let outputs ← backend.execute plan.plan.quoteCall
    plan.decode outputs

/-- Gives the outcomes of a batch to the plans that were asked, in order. -/
def deal : List (Option QuotePlan) → List (Option (List Bytes)) → List (Option QuoteResult)
  | [], _ => []
  | none :: plans, outcomes => none :: deal plans outcomes
  | some plan :: plans, outcomes =>
    (outcomes.head?.join.bind fun raw => (plan.decode raw).toOption) :: deal plans outcomes.tail

/-- Quotes all requests in one round trip. A request that cannot be planned, fails or gives
outputs that do not decode has no result; if the round trip itself fails, none has. -/
def quoteBatch (qs : List QuoteRequest) : m (List (Option QuoteResult)) := do
  let plans := qs.map fun q => (QuotePlan.ofRoute q.route q.amount q.tradeType).toOption
  let calls := plans.filterMap fun p => p.map fun p => p.plan.quoteCall
  if calls = [] then return plans.map fun _ => none
  else
    match ← (backend.executeBatch calls).run with
    | .ok outcomes =>
      if outcomes.length = calls.length then return deal plans outcomes
      else return plans.map fun _ => none
    | .error _ => return plans.map fun _ => none

/-- The step amounts of each route, one after another. Routes may be asked about side by side, since
none waits for another; where every question is answered at once, that comes to this order, because
a route that never waits is done before the next one begins. -/
def stepAmountsBatch (rs : List (BoostedRoute × Amount)) : m (List (Option StepAmounts)) :=
  rs.mapM fun (r, out) => do return (← (stepAmounts backend vaults r out).run).toOption

end Quoter

end SwapPlan

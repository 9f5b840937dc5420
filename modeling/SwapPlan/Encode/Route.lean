import SwapPlan.Plan

/-!
The commands of one route. A route spends from the router's balance and pays its output to a
recipient. Only its first command names an amount to spend; every later one spends the router's
whole balance, and only the last is held to a minimum.
-/

namespace SwapPlan

/-- What one route may spend and has to deliver. -/
structure RouteTerms where
  tradeType : TradeType
  recipient : Address
  /-- The input, or its maximum where the output is fixed. -/
  amountIn : Amount
  /-- The output, or its minimum where the input is fixed. -/
  amountOut : Amount
  /-- The input before slippage, which an exact-output route without a swap spends. -/
  quotedIn : Amount
  stepAmountsOut : Option (List Amount)
  buffer : RoundingBuffer

namespace RouteTerms

/-- Terms without step amounts, under the standard buffer. -/
def plain (t : TradeType) (recipient : Address) (amountIn amountOut : Amount) : RouteTerms :=
  ⟨t, recipient, amountIn, amountOut, amountIn, none, .standard⟩

end RouteTerms

namespace Step

/-- The command that carries out a step. A vault step spends `amount` for at least `least`; a
swap takes the two as its fixed side and its limit. -/
def command (t : TradeType) (recipient : Address) (amount least : Amount) :
    Step → Except Error Command
  | wrap v => .ok (.erc4626Wrap v.address v.underlying.address recipient amount least)
  | unwrap v => .ok (.erc4626Unwrap v.address recipient amount least)
  | swap a b p => do return .swap t (← SwapPath.ofSwap a b p t) recipient amount least

/-- The command that turns what is left behind a vault step back inside the router. -/
def undo? : Step → Option Command
  | wrap v => some (.erc4626Unwrap v.address Sentinel.router Sentinel.wholeBalance 0)
  | unwrap v =>
    some (.erc4626Wrap v.address v.underlying.address Sentinel.router Sentinel.wholeBalance 0)
  | swap .. => none

end Step

namespace BoostedRoute

/-- The steps of a route of which the first spends `amount` and the last delivers. -/
def exactInputCommands (recipient : Address) (least : Amount) :
    (amount : Amount) → List Step → Except Error (List Command)
  | _, [] => .ok []
  | amount, [s] => do return [← s.command .exactInput recipient amount least]
  | amount, s :: steps => do
    let c ← s.command .exactInput Sentinel.router amount 0
    let cs ← exactInputCommands recipient least Sentinel.wholeBalance steps
    return c :: cs

/-- A step that spends `amount`, or that buys `out` for at most `amount` if it is the swap. -/
def exactOutputCommand (recipient : Address) (amount least out : Amount) (s : Step) :
    Except Error Command :=
  if s.isSwap then s.command .exactOutput recipient out amount
  else s.command .exactOutput recipient amount least

/-- The steps of a route with the amounts that they put out. -/
def exactOutputCommands (recipient : Address) (least : Amount) :
    (amount : Amount) → List (Step × Amount) → Except Error (List Command)
  | _, [] => .ok []
  | amount, [(s, out)] => do return [← exactOutputCommand recipient amount least out s]
  | amount, (s, out) :: steps => do
    let c ← exactOutputCommand Sentinel.router amount 0 out s
    let cs ← exactOutputCommands recipient least Sentinel.wholeBalance steps
    return c :: cs

/-- What every step puts out, if the route has at most one swap. -/
def outputAmounts (r : BoostedRoute) (t : RouteTerms) : Except Error (List Amount) :=
  if r.swapCount > 1 then .error (.manySwapSteps r.swapCount)
  else match t.stepAmountsOut with
    | none => .error .stepAmountsMissing
    | some amounts =>
      if amounts.length = r.steps.length then .ok amounts
      else .error (.stepAmountCount amounts.length r.steps.length)

/-- What the last step delivers: a swap exactly what it buys, a vault step that less its margin. -/
def delivered (r : BoostedRoute) (buffer : RoundingBuffer) (amounts : List Amount) :
    Except Error Amount :=
  let last := amounts.getLast?.getD 0
  if (r.steps.getLast?.map Step.isSwap).getD false then .ok last else buffer.apply last

/-- Turns what the steps before the swap have left back into the input, last step first. -/
def unwind (r : BoostedRoute) : List Command :=
  if r.steps.any Step.isSwap then
    (r.steps.takeWhile fun s => !s.isSwap).reverse.filterMap Step.undo?
  else []

def encode (r : BoostedRoute) (t : RouteTerms) : Except Error (List Command × Amount) :=
  match t.tradeType with
  | .exactInput => do
    return (← exactInputCommands t.recipient t.amountOut t.amountIn r.steps, t.amountOut)
  | .exactOutput => do
    let amounts ← r.outputAmounts t
    let delivered ← r.delivered t.buffer amounts
    let spent := if r.steps.any Step.isSwap then t.amountIn else t.quotedIn
    let cs ← exactOutputCommands t.recipient delivered spent (r.steps.zip amounts)
    return (cs ++ r.unwind, delivered)

end BoostedRoute

/-- One swap over the whole path. -/
def PoolRoute.encode (r : PoolRoute) (t : RouteTerms) : Except Error (List Command × Amount) := do
  let path ← SwapPath.ofRoute r t.tradeType
  let (exact, bound) := match t.tradeType with
    | .exactInput => (t.amountIn, t.amountOut)
    | .exactOutput => (t.amountOut, t.amountIn)
  return ([.swap t.tradeType path t.recipient exact bound], t.amountOut)

namespace Route

/-- The commands of a route, and the least that they deliver. -/
def encode (r : Route) (t : RouteTerms) : Except Error (List Command × Amount) :=
  match r with
  | pooled r => r.encode t
  | boosted r => r.encode t

end Route

namespace Plan

/-- Appends the commands of a route, and gives the least that they deliver. -/
def pushRoute (p : Plan) (r : Route) (t : RouteTerms) : Except Error (Plan × Amount) := do
  let (cs, delivered) ← r.encode t
  return (p ++ ofCommands cs, delivered)

end Plan

end SwapPlan

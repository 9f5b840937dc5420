import SwapPlan.Encode.Route
import SwapPlan.Calldata

/-!
The plan of a trade: it takes the input in, runs every route, pays the output out where the
router has to hold it, and returns what is left of the input.
-/

namespace SwapPlan

/-- What a call of the router has to carry. -/
structure CallParameters where
  calldata : Bytes
  value : Amount
deriving DecidableEq

/-- A permit has to be for the token that the trade spends, with times that fit its fields. -/
def Permit.fault? (p : Permit) (spends : Address) : Option Error :=
  if p.token ≠ spends then some (.permitToken p.token spends)
  else if p.expiration.toNat > Command.Input.maxUint48 ∨ p.nonce.toNat > Command.Input.maxUint48
  then some .permitRange
  else none

namespace Trade

/-- The reason for which a permit may not go with a trade. -/
def permitFault? (t : Trade) (permit : Option Permit) : Option Error :=
  match permit with
  | none => none
  | some p => if t.input.isNative then some .nativeInputWithPermit else p.fault? t.input.address

/-- Several routes of a fixed input are held to their minimum together. -/
def isAggregated (t : Trade) : Bool := t.tradeType = .exactInput ∧ t.rest ≠ []

/-- The output has to pass through the router. -/
def needsCustody (t : Trade) : Bool := t.output.isNative || t.isAggregated

/-- The terms of one swap of a trade. -/
def terms (t : Trade) (o : SwapOptions) (s : TradeSwap) : Except Error RouteTerms := do
  let recipient := if t.needsCustody then Sentinel.router else o.recipient
  match t.tradeType with
  | .exactInput =>
    let least ← if t.isAggregated then pure 0 else s.minimumOut .exactInput o.slippage
    return ⟨.exactInput, recipient, s.inputAmount, least, s.inputAmount, s.stepAmountsOut, o.buffer⟩
  | .exactOutput =>
    let most ← s.maximumIn .exactOutput o.slippage
    return ⟨.exactOutput, recipient, most, s.outputAmount, s.inputAmount, s.stepAmountsOut,
      o.buffer⟩

/-- The commands of all routes, and the sum of what they deliver on top of `delivered`. -/
def routeCommands (t : Trade) (o : SwapOptions) :
    (delivered : Amount) → List TradeSwap → Except Error (List Command × Amount)
  | delivered, [] => .ok ([], delivered)
  | delivered, s :: swaps => do
    let terms ← t.terms o s
    let (cs, out) ← s.route.encode terms
    match delivered.add? out with
    | none => throw .deliveredTooLarge
    | some delivered =>
      let (rest, total) ← t.routeCommands o delivered swaps
      return (cs ++ rest, total)

/-- Takes the input in: the native currency with the call, a token by transfer. -/
def intake (t : Trade) (maxIn : Amount) : Except Error Command :=
  if t.input.isNative then .ok (.wrapEth Sentinel.router maxIn)
  else if h : maxIn.toNat < Nat.pow 2 160 then
    .ok (.permit2TransferFrom t.input.address Sentinel.router (BitVec.ofNatLT maxIn.toNat h))
  else .error (.inputAboveTransfer maxIn)

/-- Pays the router's balance of a currency out. -/
def payout (c : Currency) (recipient : Address) (least : Amount) : Command :=
  if c.isNative then .unwrapWeth recipient least else .sweep c.address recipient least

/-- The commands of a trade and the native amount to send along. -/
def commands (t : Trade) (o : SwapOptions) : Except Error (List Command × Amount) := do
  if let some e := t.permitFault? o.permit then throw e
  let minOut ← t.minimumOut o.slippage
  let maxIn ← t.maximumIn o.slippage
  let intake ← t.intake maxIn
  let (routes, delivered) ← t.routeCommands o 0 t.swaps
  let least := match t.tradeType with
    | .exactInput => minOut
    | .exactOutput => delivered
  let pay := if t.needsCustody then [payout t.output o.recipient least] else []
  let refund := if t.tradeType = .exactOutput then [payout t.input o.recipient 0] else []
  let dust := if o.safeMode then [.sweep Sentinel.native o.recipient 0] else []
  return (o.permit.toList.map .permit2Permit ++ intake :: routes ++ pay ++ refund ++ dust,
    if t.input.isNative then maxIn else 0)

def plan (t : Trade) (o : SwapOptions) : Except Error (Plan × Amount) := do
  let (cs, value) ← t.commands o
  return (.ofCommands cs, value)

def callParameters (t : Trade) (o : SwapOptions) : Except Error CallParameters := do
  let (p, value) ← t.plan o
  return ⟨Calldata.encode p.commands p.inputs o.deadline, value⟩

end Trade

end SwapPlan

import SwapPlan.Route
import SwapPlan.Slippage

/-!
Trades: routes between the same two currencies with their quoted amounts, and the options under
which they are encoded.
-/

namespace SwapPlan

/-- Which side of a trade is fixed. -/
inductive TradeType
  | exactInput | exactOutput
deriving DecidableEq

/-- One route of a trade with its quoted amounts. -/
structure TradeSwap where
  route : Route
  inputAmount : Amount
  outputAmount : Amount
  /-- What every step puts out, where the route is quoted from its end. -/
  stepAmountsOut : Option (List Amount)

namespace TradeSwap

def minimumOut (s : TradeSwap) (t : TradeType) (slippage : Percent) : Except Error Amount :=
  match t with
  | .exactInput => slippage.discount s.outputAmount
  | .exactOutput => .ok s.outputAmount

def maximumIn (s : TradeSwap) (t : TradeType) (slippage : Percent) : Except Error Amount :=
  match t with
  | .exactInput => .ok s.inputAmount
  | .exactOutput => slippage.premium s.inputAmount

end TradeSwap

namespace Trade

/-- The first fault of the swaps from index `idx` on, given the totals of those before. -/
def fault? (input output : Currency) :
    (idx : Nat) → (totalIn totalOut : Amount) → List TradeSwap → Option Error
  | _, _, _, [] => none
  | idx, totalIn, totalOut, s :: swaps =>
    match totalIn.add? s.inputAmount, totalOut.add? s.outputAmount with
    | none, _ => some .totalInputTooLarge
    | _, none => some .totalOutputTooLarge
    | some totalIn, some totalOut =>
      if !s.route.input.same input then some (.startsElsewhere idx)
      else if !s.route.output.same output then some (.endsElsewhere idx)
      else fault? input output (idx + 1) totalIn totalOut swaps

end Trade

/-- At least one swap, all between the same currencies, with totals that fit. -/
structure Trade where
  tradeType : TradeType
  first : TradeSwap
  rest : List TradeSwap
  sound : Trade.fault? first.route.input first.route.output 0 0 0 (first :: rest) = none

namespace Trade

def ofSwaps (swaps : List TradeSwap) (tradeType : TradeType) : Except Error Trade :=
  match swaps with
  | [] => .error .noSwaps
  | s :: rest =>
    match h : fault? s.route.input s.route.output 0 0 0 (s :: rest) with
    | some e => .error e
    | none => .ok ⟨tradeType, s, rest, h⟩

def swaps (t : Trade) : List TradeSwap := t.first :: t.rest

def input (t : Trade) : Currency := t.first.route.input

def output (t : Trade) : Currency := t.first.route.output

def inputAmount (t : Trade) : Amount := Amount.sumCapped (t.swaps.map TradeSwap.inputAmount)

def outputAmount (t : Trade) : Amount := Amount.sumCapped (t.swaps.map TradeSwap.outputAmount)

def minimumOut (t : Trade) (slippage : Percent) : Except Error Amount :=
  match t.tradeType with
  | .exactInput => slippage.discount t.outputAmount
  | .exactOutput => .ok t.outputAmount

def maximumIn (t : Trade) (slippage : Percent) : Except Error Amount :=
  match t.tradeType with
  | .exactInput => .ok t.inputAmount
  | .exactOutput => slippage.premium t.inputAmount

end Trade

/-- A signed allowance for one token. -/
structure Permit where
  token : Address
  amount : BitVec 160
  expiration : UInt64
  nonce : UInt64
  spender : Address
  sigDeadline : Amount
  signature : Bytes
deriving DecidableEq

structure SwapOptions where
  recipient : Address
  slippage : Percent
  /-- The time in seconds until which the plan may run. -/
  deadline : Option Amount
  permit : Option Permit
  /-- Send what is left of the native currency to the recipient. -/
  safeMode : Bool
  buffer : RoundingBuffer
deriving DecidableEq

def SwapOptions.plain (recipient : Address) (slippage : Percent) : SwapOptions :=
  ⟨recipient, slippage, none, none, false, .standard⟩

end SwapPlan

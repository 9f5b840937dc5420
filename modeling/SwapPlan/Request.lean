import SwapPlan.Json.Text
import SwapPlan.Quote.Quoter
import SwapPlan.Records
import SwapPlan.Settings

/-!
Request documents: trades to encode and routes to quote, as JSON texts. A trade is read in
order, so of several faults the first counts; routes in it are read only once they are known to
be well-formed JSON.
-/

namespace SwapPlan

open Json (Read Record listOf nullable readAmount readBool readUInt16 readUInt64 readAddress)

/-- The arrays and objects that a document may nest, itself included. -/
def Json.maxDepth : Nat := 127

namespace TradeSwap

/-- A route inside `depth` other values. -/
def readRoute (depth : Nat) (j : Json) : Read Route :=
  if j.isReadable (Json.maxDepth - depth) then Route.ofJson j else .error .malformed

/-- A swap inside `depth` other values. -/
def record (depth : Nat) : Record TradeSwap :=
  (Record.field "route" .required (readRoute (depth + 1)) *
    (Record.field "input_amount" .required readAmount *
      (Record.field "output_amount" .required readAmount *
        Record.field "step_amounts_out" (.default none) (nullable (listOf readAmount))))).map
    fun (route, input, output, steps) => ⟨route, input, output, steps⟩

end TradeSwap

/-- A trade to encode. What it leaves open, the settings decide. -/
structure TradeRequest where
  tradeType : TradeType
  swaps : List TradeSwap
  recipient : Address
  slippageBps : Option UInt64
  deadline : Option Amount
  permit : Option Permit
  safeMode : Option Bool
  bufferBps : Option UInt16

namespace TradeRequest

def record : Record TradeRequest :=
  (Record.field "trade_type" .required TradeType.ofJson *
    (Record.field "swaps" .required (listOf (TradeSwap.record 2).ofJson) *
      (Record.field "recipient" .required readAddress *
        (Record.field "slippage_bps" (.optional none) (nullable readUInt64) *
          (Record.field "deadline" (.optional none) (nullable readAmount) *
            (Record.field "permit" (.optional none) (nullable Permit.ofJson) *
              (Record.field "safe_mode" (.optional none) (nullable readBool) *
                Record.field "rounding_buffer_bps" (.optional none) (nullable readUInt16)))))))).map
    fun (tradeType, swaps, recipient, slippageBps, deadline, permit, safeMode, bufferBps) =>
      ⟨tradeType, swaps, recipient, slippageBps, deadline, permit, safeMode, bufferBps⟩

/-- The request that a text spells. What a route or a currency refuses is told on. -/
def ofText (text : String) : Except Error TradeRequest :=
  let (j, clean) := Json.ofText text
  match record.ofJson j with
  | .ok r => if clean then .ok r else .error .requestUnreadable
  | .error (.refused e) => .error (.requestRefused e)
  | .error .malformed => .error .requestUnreadable

/-- The trade of a request and its options at a time in seconds. -/
def resolve (r : TradeRequest) (s : Settings) (now : UInt64) :
    Except Error (Trade × SwapOptions) := do
  let base ← s.swapOptions r.recipient now
  let slippage ← match r.slippageBps with
    | some bps => Percent.ofBps bps
    | none => pure base.slippage
  let buffer ← match r.bufferBps with
    | some bps => RoundingBuffer.ofBps bps
    | none => pure base.buffer
  let trade ← Trade.ofSwaps r.swaps r.tradeType
  return (trade, { base with
    slippage, buffer
    deadline := r.deadline.or base.deadline
    permit := r.permit
    safeMode := r.safeMode.getD base.safeMode })

end TradeRequest

namespace QuoteRequest

def record : Record QuoteRequest :=
  (Record.field "route" .required (Route.read .numbered) *
    (Record.field "amount" .required readAmount *
      Record.field "trade_type" .required TradeType.ofJson)).map
    fun (route, amount, tradeType) => ⟨route, amount, tradeType⟩

def ofJson : Json → Read QuoteRequest := record.ofJson

def toJson (q : QuoteRequest) : Json :=
  .obj [("route", q.route.toJson), ("amount", .ofUint q.amount),
    ("trade_type", .str q.tradeType.tag)]

end QuoteRequest

/-- One route to quote, or many. -/
inductive QuoteDocument
  | single (request : QuoteRequest)
  | batch (requests : List QuoteRequest)

namespace QuoteDocument

/-- An array of three values may be a request itself; else it lists requests. -/
def ofJson (j : Json) : Option QuoteDocument :=
  match QuoteRequest.ofJson j with
  | .ok q => some (single q)
  | .error _ =>
    match listOf QuoteRequest.ofJson j with
    | .ok qs => some (batch qs)
    | .error _ => none

/-- The document that a text spells; it does not tell why it is none. -/
def ofText (text : String) : Except Error QuoteDocument :=
  let (j, clean) := Json.ofText text
  if clean && j.isReadable Json.maxDepth then
    match ofJson j with
    | some d => .ok d
    | none => .error .requestUnreadable
  else .error .requestUnreadable

def toJson : QuoteDocument → Json
  | single q => .obj [("single", q.toJson)]
  | batch qs => .obj [("batch", .arr (qs.map QuoteRequest.toJson))]

end QuoteDocument

end SwapPlan

import SwapPlan.Command.Text
import SwapPlan.Encode.Trade
import SwapPlan.Json.Print
import SwapPlan.Quote.Plan
import SwapPlan.Records

/-!
What the command line writes: calls and quotes as JSON, and plans command by command.
-/

namespace SwapPlan

open Json (ofAddress ofBytes ofNullable ofUint)

/-- The call of a router, whose address may be left out. -/
def CallParameters.toJson (router : Option Address) (c : CallParameters) : Json :=
  .obj (router.toList.map (fun a => ("to", ofAddress a)) ++
    [("calldata", ofBytes c.calldata), ("value", ofUint c.value)])

def QuoteResult.fields (r : QuoteResult) : List (String × Json) :=
  [("amounts_out", .arr (r.amountsOut.map ofUint)), ("amounts_in", .arr (r.amountsIn.map ofUint)),
   ("sqrt_prices", .arr (r.sqrtPrices.map fun ps => .arr (ps.map ofUint))),
   ("gas_estimate", ofUint r.gasEstimate), ("fees", .arr (r.fees.map fun f => .int f.toNat))]

def QuoteResult.toJson (r : QuoteResult) : Json := .obj r.fields

namespace Plan

/-- A number in at least two places. -/
def paddedIndex (i : Nat) : String := (if i < 10 then " " else "") ++ toString i

/-- The line of an entry: its place, its name and its command. -/
def Entry.line (i : Nat) (e : Entry) : Except Error String := do
  let c ← e.decode
  let mark := if e.allowRevert then " (allow revert)" else ""
  return paddedIndex i ++ " " ++ e.opcode.name ++ mark ++ ": " ++ c.render

/-- The lines of entries from place `i` on, up to the first that does not decode. -/
def lines : (i : Nat) → List Entry → List String × Option Error
  | _, [] => ([], none)
  | i, e :: es =>
    match e.line i with
    | .error err => ([], some err)
    | .ok l =>
      let (ls, err) := lines (i + 1) es
      (l :: ls, err)

end Plan

end SwapPlan

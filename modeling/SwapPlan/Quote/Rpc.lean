import SwapPlan.Quote.Quoter
import SwapPlan.Calldata

/-!
Quoting over contract calls. A transport sends calldata to a contract and gives the data that it
returns, or nothing where the call fails.
-/

namespace SwapPlan.Rpc

open Abi (Layout)

structure Transport (m : Type → Type) where
  call : (target : Address) → (data : Bytes) → m (Option Bytes)

/-- The first bytes of the hash of `aggregate3((address,bool,bytes)[])`. -/
def aggregateSelector : Bytes := [0x82, 0xad, 0x56, 0xcb]

/-- The outputs of a simulated plan. -/
def outputs : Layout (List Bytes) := Layout.array Layout.bytes

/-- Calls that are run together: target, leave to fail, and calldata. -/
def aggregateCalls : Layout (List (Address × Bool × Bytes)) :=
  .array (.nested (Layout.address * (Layout.bool * Layout.bytes)))

/-- The outcomes of calls that were run together: success and returned data. -/
def aggregateResults : Layout (List (Bool × Bytes)) := .array (.nested (Layout.bool * Layout.bytes))

def executeCalldata (c : QuoteCall) : Bytes := Calldata.encode c.commands c.inputs none

/-- Calldata that runs all plans on the quoter, each free to fail. -/
def aggregateCalldata (quoter : Address) (cs : List QuoteCall) : Bytes :=
  aggregateSelector ++ aggregateCalls.encode (cs.map fun c => (quoter, true, executeCalldata c))

/-- The outputs of one call of a batch, if it succeeded and they decode. -/
def decodeEntry (success : Bool) (data : Bytes) : Option (List Bytes) :=
  if success then outputs.decode data else none

/-- The outcomes that the returned data of a batch of `count` calls spells. -/
def decodeBatch (count : Nat) (data : Bytes) : Except Error (List (Option (List Bytes))) :=
  match aggregateResults.decode data with
  | none => .error .multicallFailed
  | some results =>
    if results.length = count then .ok (results.map fun (success, data) => decodeEntry success data)
    else .error (.multicallCount results.length count)

variable {m : Type → Type} [Monad m]

/-- The interpreter at `quoter`, with batches run by the contract at `multicall`. -/
def backend (t : Transport m) (quoter multicall : Address) : QuoterBackend m where
  execute c := do
    match (← t.call quoter (executeCalldata c)).bind outputs.decode with
    | some raw => return raw
    | none => throw .quoterCallFailed
  executeBatch cs := do
    match ← t.call multicall (aggregateCalldata quoter cs) with
    | some data => decodeBatch cs.length data
    | none => throw .multicallFailed

end Rpc

namespace PreviewMethod

def name : PreviewMethod → String
  | deposit => "previewDeposit"
  | mint => "previewMint"
  | withdraw => "previewWithdraw"
  | redeem => "previewRedeem"

/-- The first bytes of the hash of the method's name and its one `uint256` parameter. -/
def selector : PreviewMethod → Bytes
  | deposit => [0xef, 0x8b, 0x30, 0xf7]
  | mint => [0xb3, 0xd7, 0xf6, 0xb9]
  | withdraw => [0x0a, 0x28, 0xa4, 0x77]
  | redeem => [0x4c, 0xda, 0xd5, 0x06]

end PreviewMethod

namespace Rpc

variable {m : Type → Type} [Monad m]

/-- The vaults themselves. -/
def previews (t : Transport m) : VaultPreview m where
  preview method vault amount := do
    let data := method.selector ++ (Abi.Layout.uint 256).encode amount
    match (← t.call vault data).bind (Abi.Layout.uint 256).decode with
    | some a => return a
    | none => throw (.previewFailed method.name vault)

end Rpc

end SwapPlan

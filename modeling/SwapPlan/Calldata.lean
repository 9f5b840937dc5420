import SwapPlan.Plan

/-!
Calls of the router's `execute`, with and without a deadline: a selector of four bytes and a
parameter list.
-/

namespace SwapPlan.Calldata

open Abi (Layout)

/-- The first bytes of the hash of `execute(bytes,bytes[])`. -/
def executeSelector : Bytes := [0x24, 0x85, 0x6b, 0xc3]

/-- The first bytes of the hash of `execute(bytes,bytes[],uint256)`. -/
def timedExecuteSelector : Bytes := [0x35, 0x93, 0x56, 0x4c]

def execute : Layout (Bytes × List Bytes) := Layout.bytes * Layout.array Layout.bytes

def timedExecute : Layout (Bytes × List Bytes × Amount) :=
  Layout.bytes * (Layout.array Layout.bytes * Layout.uint 256)

def encode (commands : Bytes) (inputs : List Bytes) (deadline : Option Amount) : Bytes :=
  match deadline with
  | some d => timedExecuteSelector ++ timedExecute.encode (commands, inputs, d)
  | none => executeSelector ++ execute.encode (commands, inputs)

/-- The parameters behind a selector. -/
def behind? (selector calldata : Bytes) : Option Bytes :=
  if calldata.take 4 = selector then some (calldata.drop 4) else none

def decode (calldata : Bytes) : Except Error (Bytes × List Bytes × Option Amount) :=
  match (behind? timedExecuteSelector calldata).bind timedExecute.decode with
  | some (commands, inputs, d) => .ok (commands, inputs, some d)
  | none =>
    match (behind? executeSelector calldata).bind execute.decode with
    | some (commands, inputs) => .ok (commands, inputs, none)
    | none => .error .notExecute

/-- Calldata as written in a file or an argument. -/
def ofText (s : String) : Except Error Bytes :=
  match Hex.decodeTrimmed s with
  | some bs => .ok bs
  | none => .error .notHex

end SwapPlan.Calldata

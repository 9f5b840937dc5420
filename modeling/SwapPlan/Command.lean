import SwapPlan.Abi.Layout
import SwapPlan.Path.Swap

/-!
Typed commands of the interpreter and their inputs. Swaps are paid from the router's own
balance, so the flag that charges the caller is always written as false.
-/

namespace SwapPlan

/-- A swap's protocol is that of its path. `exact` is the fixed side of the swap and `bound` the
limit of the other. -/
inductive Command
  | swap (side : TradeType) (path : SwapPath) (recipient : Address) (exact bound : Amount)
  | boostedSwapExactOut (path : Bytes) (recipient : Address) (amountOut amountInMax : Amount)
  | permit2Permit (permit : Permit)
  | permit2TransferFrom (token recipient : Address) (amount : BitVec 160)
  | sweep (token recipient : Address) (amountMin : Amount)
  | wrapEth (recipient : Address) (amount : Amount)
  | unwrapWeth (recipient : Address) (amountMin : Amount)
  | erc4626Wrap (wrapper underlying recipient : Address) (amount amountOutMin : Amount)
  | erc4626Unwrap (wrapper recipient : Address) (amount amountOutMin : Amount)
  | executeSubPlan (commands : Bytes) (inputs : List Bytes)
deriving DecidableEq

namespace Command

def opcode : Command → Opcode
  | swap .exactInput (.addresses _) .. => .v2SwapExactIn
  | swap .exactOutput (.addresses _) .. => .v2SwapExactOut
  | swap .exactInput (.fees _) .. => .v3SwapExactIn
  | swap .exactOutput (.fees _) .. => .v3SwapExactOut
  | swap .exactInput (.deployers _) .. => .integralSwapExactIn
  | swap .exactOutput (.deployers _) .. => .integralSwapExactOut
  | boostedSwapExactOut .. => .boostedSwapExactOut
  | permit2Permit .. => .permit2Permit
  | permit2TransferFrom .. => .permit2TransferFrom
  | sweep .. => .sweep
  | wrapEth .. => .wrapEth
  | unwrapWeth .. => .unwrapWeth
  | erc4626Wrap .. => .erc4626Wrap
  | erc4626Unwrap .. => .erc4626Unwrap
  | executeSubPlan .. => .executeSubPlan

/-! ### Layouts of the inputs -/

namespace Input

open Abi (Layout)

def uint256 : Layout Amount := .uint 256

/-- Recipient, fixed amount, limit, path and the flag that charges the caller. -/
def swap {π : Type} (path : Layout π) : Layout (Address × Amount × Amount × π × Bool) :=
  Layout.address * (uint256 * (uint256 * (path * Layout.bool)))

def addressSwap : Layout (Address × Amount × Amount × List Address × Bool) := swap (.array .address)

def packedSwap : Layout (Address × Amount × Amount × Bytes × Bool) := swap .bytes

/-- The largest expiration or nonce that a permit can hold. -/
def maxUint48 : Nat := 0xffffffffffff

/-- A time or counter of 48 bits; larger ones are written as the largest. -/
def uint48 : Layout UInt64 :=
  (Layout.uint 48).map (fun n => UInt64.ofNat n.toNat)
    (fun n => BitVec.ofNat 48 (min n.toNat maxUint48))

def permit : Layout Permit :=
  (Layout.address * (Layout.uint 160 * (uint48 * (uint48 *
    (Layout.address * (uint256 * Layout.bytes)))))).map
    (fun (token, amount, expiration, nonce, spender, sigDeadline, signature) =>
      ⟨token, amount, expiration, nonce, spender, sigDeadline, signature⟩)
    (fun p => (p.token, p.amount, p.expiration, p.nonce, p.spender, p.sigDeadline, p.signature))

def transferFrom : Layout (Address × Address × BitVec 160) :=
  Layout.address * (Layout.address * Layout.uint 160)

def sweep : Layout (Address × Address × Amount) := Layout.address * (Layout.address * uint256)

/-- A recipient and an amount. -/
def native : Layout (Address × Amount) := Layout.address * uint256

def vaultWrap : Layout (Address × Address × Address × Amount × Amount) :=
  Layout.address * (Layout.address * (Layout.address * (uint256 * uint256)))

def vaultUnwrap : Layout (Address × Address × Amount × Amount) :=
  Layout.address * (Layout.address * (uint256 * uint256))

def subPlan : Layout (Bytes × List Bytes) := Layout.bytes * Layout.array Layout.bytes

end Input

/-- The input that a command carries in a plan. -/
def encode : Command → Bytes
  | swap _ (.addresses path) recipient exact bound =>
    Input.addressSwap.encode (recipient, exact, bound, path, false)
  | swap _ (.fees path) recipient exact bound
  | swap _ (.deployers path) recipient exact bound =>
    Input.packedSwap.encode (recipient, exact, bound, path, false)
  | boostedSwapExactOut path recipient amountOut amountInMax =>
    Input.packedSwap.encode (recipient, amountOut, amountInMax, path, false)
  | permit2Permit permit => Input.permit.encode permit
  | permit2TransferFrom token recipient amount =>
    Input.transferFrom.encode (token, recipient, amount)
  | sweep token recipient amountMin => Input.sweep.encode (token, recipient, amountMin)
  | wrapEth recipient amount => Input.native.encode (recipient, amount)
  | unwrapWeth recipient amountMin => Input.native.encode (recipient, amountMin)
  | erc4626Wrap wrapper underlying recipient amount amountOutMin =>
    Input.vaultWrap.encode (wrapper, underlying, recipient, amount, amountOutMin)
  | erc4626Unwrap wrapper recipient amount amountOutMin =>
    Input.vaultUnwrap.encode (wrapper, recipient, amount, amountOutMin)
  | executeSubPlan commands inputs => Input.subPlan.encode (commands, inputs)

/-- Reads the input of a swap over addresses. -/
def decodeAddressSwap (side : TradeType) (input : Bytes) : Option Command :=
  (Input.addressSwap.decode input).map fun (recipient, exact, bound, path, _) =>
    swap side (.addresses path) recipient exact bound

/-- Reads the input of a swap over a packed path, which `form` names. -/
def decodePackedSwap (side : TradeType) (form : Bytes → SwapPath) (input : Bytes) :
    Option Command :=
  (Input.packedSwap.decode input).map fun (recipient, exact, bound, path, _) =>
    swap side (form path) recipient exact bound

/-- The command that an input of an opcode spells. Only opcodes of typed commands are read. -/
def decode (o : Opcode) (input : Bytes) : Except Error Command :=
  let known (c : Option Command) : Except Error Command :=
    match c with
    | some c => .ok c
    | none => .error (.inputUndecodable o)
  match o with
  | .v2SwapExactIn => known (decodeAddressSwap .exactInput input)
  | .v2SwapExactOut => known (decodeAddressSwap .exactOutput input)
  | .v3SwapExactIn => known (decodePackedSwap .exactInput .fees input)
  | .v3SwapExactOut => known (decodePackedSwap .exactOutput .fees input)
  | .integralSwapExactIn => known (decodePackedSwap .exactInput .deployers input)
  | .integralSwapExactOut => known (decodePackedSwap .exactOutput .deployers input)
  | .boostedSwapExactOut => known <|
    (Input.packedSwap.decode input).map fun (recipient, amountOut, amountInMax, path, _) =>
      boostedSwapExactOut path recipient amountOut amountInMax
  | .permit2Permit => known ((Input.permit.decode input).map permit2Permit)
  | .permit2TransferFrom => known <|
    (Input.transferFrom.decode input).map fun (token, recipient, amount) =>
      permit2TransferFrom token recipient amount
  | .sweep => known <|
    (Input.sweep.decode input).map fun (token, recipient, amountMin) =>
      sweep token recipient amountMin
  | .wrapEth => known <|
    (Input.native.decode input).map fun (recipient, amount) => wrapEth recipient amount
  | .unwrapWeth => known <|
    (Input.native.decode input).map fun (recipient, amountMin) => unwrapWeth recipient amountMin
  | .erc4626Wrap => known <|
    (Input.vaultWrap.decode input).map fun (wrapper, underlying, recipient, amount, least) =>
      erc4626Wrap wrapper underlying recipient amount least
  | .erc4626Unwrap => known <|
    (Input.vaultUnwrap.decode input).map fun (wrapper, recipient, amount, least) =>
      erc4626Unwrap wrapper recipient amount least
  | .executeSubPlan => known <|
    (Input.subPlan.decode input).map fun (commands, inputs) => executeSubPlan commands inputs
  | o => .error (.notEmitted o)

end Command

end SwapPlan

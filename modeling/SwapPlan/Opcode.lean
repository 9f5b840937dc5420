import SwapPlan.Keccak
import SwapPlan.Hex

/-!
The opcode table that plans share with the interpreter. A command byte holds the opcode in its
low six bits and the revert flag in its top bit.
-/

namespace SwapPlan

inductive Opcode
  | v3SwapExactIn | v3SwapExactOut | permit2TransferFrom | permit2PermitBatch | sweep | transfer
  | payPortion | v2SwapExactIn | v2SwapExactOut | permit2Permit | wrapEth | unwrapWeth
  | permit2TransferFromBatch | balanceCheckErc20 | integralSwapExactIn | integralSwapExactOut
  | integralPositionManagerPermit | integralPositionManagerCall | erc4626Wrap | erc4626Unwrap
  | boostedSwapExactOut | executeSubPlan
deriving DecidableEq, Repr

namespace Opcode

def tableVersion : Nat := 3

/-- Set on a command byte where the interpreter may go on after a failure. -/
def revertFlag : UInt8 := 0x80

/-- The bits of a command byte that hold the opcode. -/
def mask : UInt8 := 0x3f

def byte : Opcode → UInt8
  | v3SwapExactIn => 0x00
  | v3SwapExactOut => 0x01
  | permit2TransferFrom => 0x02
  | permit2PermitBatch => 0x03
  | sweep => 0x04
  | transfer => 0x05
  | payPortion => 0x06
  | v2SwapExactIn => 0x08
  | v2SwapExactOut => 0x09
  | permit2Permit => 0x0a
  | wrapEth => 0x0b
  | unwrapWeth => 0x0c
  | permit2TransferFromBatch => 0x0d
  | balanceCheckErc20 => 0x0e
  | integralSwapExactIn => 0x10
  | integralSwapExactOut => 0x11
  | integralPositionManagerPermit => 0x12
  | integralPositionManagerCall => 0x13
  | erc4626Wrap => 0x14
  | erc4626Unwrap => 0x15
  | boostedSwapExactOut => 0x16
  | executeSubPlan => 0x21

/-- The name under which the interpreter lists an opcode. -/
def name : Opcode → String
  | v3SwapExactIn => "V3_SWAP_EXACT_IN"
  | v3SwapExactOut => "V3_SWAP_EXACT_OUT"
  | permit2TransferFrom => "PERMIT2_TRANSFER_FROM"
  | permit2PermitBatch => "PERMIT2_PERMIT_BATCH"
  | sweep => "SWEEP"
  | transfer => "TRANSFER"
  | payPortion => "PAY_PORTION"
  | v2SwapExactIn => "V2_SWAP_EXACT_IN"
  | v2SwapExactOut => "V2_SWAP_EXACT_OUT"
  | permit2Permit => "PERMIT2_PERMIT"
  | wrapEth => "WRAP_ETH"
  | unwrapWeth => "UNWRAP_WETH"
  | permit2TransferFromBatch => "PERMIT2_TRANSFER_FROM_BATCH"
  | balanceCheckErc20 => "BALANCE_CHECK_ERC20"
  | integralSwapExactIn => "INTEGRAL_SWAP_EXACT_IN"
  | integralSwapExactOut => "INTEGRAL_SWAP_EXACT_OUT"
  | integralPositionManagerPermit => "INTEGRAL_POSITION_MANAGER_PERMIT"
  | integralPositionManagerCall => "INTEGRAL_POSITION_MANAGER_CALL"
  | erc4626Wrap => "ERC4626_WRAP"
  | erc4626Unwrap => "ERC4626_UNWRAP"
  | boostedSwapExactOut => "BOOSTED_SWAP_EXACT_OUT"
  | executeSubPlan => "EXECUTE_SUB_PLAN"

/-- All opcodes, in the order of their bytes. -/
def all : List Opcode :=
  [v3SwapExactIn, v3SwapExactOut, permit2TransferFrom, permit2PermitBatch, sweep, transfer,
   payPortion, v2SwapExactIn, v2SwapExactOut, permit2Permit, wrapEth, unwrapWeth,
   permit2TransferFromBatch, balanceCheckErc20, integralSwapExactIn, integralSwapExactOut,
   integralPositionManagerPermit, integralPositionManagerCall, erc4626Wrap, erc4626Unwrap,
   boostedSwapExactOut, executeSubPlan]

/-- Only a nested plan may fail without failing the plan around it. -/
def isRevertible (o : Opcode) : Bool := o = executeSubPlan

/-- The opcode that a command byte holds, whatever its flags. -/
def ofByte? (b : UInt8) : Option Opcode := all.find? fun o => o.byte = b &&& mask

/-- The hash over the byte and the name of every opcode, in the order of the table. -/
def fingerprint : Bytes :=
  Keccak.hash (all.flatMap fun o => o.byte :: Bytes.ofAscii o.name)

/-- The name of an opcode in capitalised words without separators. -/
def title (o : Opcode) : String :=
  "".intercalate ((o.name.splitOn "_").map fun w =>
    String.ofList (match w.toList with
      | [] => []
      | c :: cs => c :: cs.map Char.toLower))

theorem mem_all (o : Opcode) : o ∈ all := by cases o <;> decide

theorem revertFlag_ne_zero : revertFlag ≠ 0 := by decide

@[simp] theorem byte_and_revertFlag (o : Opcode) : o.byte &&& revertFlag = 0 := by
  cases o <;> decide

@[simp] theorem byte_or_revertFlag_and (o : Opcode) :
    (o.byte ||| revertFlag) &&& revertFlag = revertFlag := by
  cases o <;> decide

@[simp] theorem ofByte?_byte (o : Opcode) : ofByte? o.byte = some o := by
  cases o <;> decide

@[simp] theorem ofByte?_byte_or_flag (o : Opcode) : ofByte? (o.byte ||| revertFlag) = some o := by
  cases o <;> decide

end Opcode

end SwapPlan

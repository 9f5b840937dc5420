import SwapPlan.Path.Packed
import SwapPlan.Trade

/-!
The path that a swap command carries: addresses for constant-product pools, else a packed path,
which is written from the output when the output is fixed.
-/

namespace SwapPlan

inductive SwapPath
  | addresses (tokens : List Address)
  | fees (path : Bytes)
  | deployers (path : Bytes)
deriving DecidableEq

namespace SwapPath

def poolFee (p : Pool) : Except Error UInt32 :=
  match p.state with
  | .v3 fee .. => .ok fee
  | _ => .error (.notFeePool p.protocol)

def poolDeployer (p : Pool) : Except Error Address :=
  match p.state with
  | .integral deployer .. => .ok deployer
  | _ => .error (.notDeployerPool p.protocol)

/-- A packed path in the direction in which the interpreter walks it. -/
def pack {ι : Type} (f : Path.IdentFormat ι) (p : Path.Packed ι) : TradeType → Except Error Bytes
  | .exactInput => p.encode f
  | .exactOutput => p.reverse.encode f

/-- The path through pools of one protocol. -/
def through (protocol : Protocol) (path : List Currency) (pools : List Pool) (t : TradeType) :
    Except Error SwapPath :=
  let tokens := path.map Currency.address
  match protocol with
  | .v2 => .ok (.addresses tokens)
  | .v3 => do return .fees (← pack .fee ⟨tokens, ← pools.mapM poolFee⟩ t)
  | .integral => do return .deployers (← pack .deployer ⟨tokens, ← pools.mapM poolDeployer⟩ t)

def ofRoute (r : PoolRoute) (t : TradeType) : Except Error SwapPath :=
  through r.protocol r.path r.pools t

/-- The path of a single swap. -/
def ofSwap (a b : Currency) (p : Pool) (t : TradeType) : Except Error SwapPath :=
  through p.protocol [a, b] [p] t

end SwapPath

end SwapPlan

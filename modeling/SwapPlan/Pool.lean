import SwapPlan.Currency
import SwapPlan.Chain

/-!
Snapshots of pools. Each holds two currencies and what its protocol knows of it.
-/

namespace SwapPlan

inductive Protocol
  | v2 | v3 | integral
deriving DecidableEq

def Protocol.name : Protocol → String
  | v2 => "V2"
  | v3 => "V3"
  | integral => "Integral"

/-- What a pool of each protocol holds beside its two currencies. -/
inductive Pool.State
  | v2 (reserve0 reserve1 : Amount)
  | v3 (fee : UInt32) (sqrtPrice : BitVec 160) (liquidity : Amount) (tick : Int32)
  | integral (deployer : Address) (fee : UInt32) (sqrtPrice : BitVec 160) (liquidity : Amount)
      (tick : Int32)
deriving DecidableEq

structure Pool where
  token0 : Currency
  token1 : Currency
  state : Pool.State
deriving DecidableEq

namespace Pool

def protocol (p : Pool) : Protocol :=
  match p.state with
  | .v2 .. => .v2
  | .v3 .. => .v3
  | .integral .. => .integral

/-- The swap fee in millionths. -/
def fee (p : Pool) : UInt32 :=
  match p.state with
  | .v2 .. => Defaults.v2Fee
  | .v3 fee .. => fee
  | .integral _ fee .. => fee

def chainId (p : Pool) : UInt64 := p.token0.chainId

def involves (p : Pool) (c : Currency) : Bool := p.token0.wrapsTo c || p.token1.wrapsTo c

/-- The currency on the other side of `c`, if the pool holds `c`. -/
def other? (p : Pool) (c : Currency) : Option Currency :=
  if p.token0.wrapsTo c then some p.token1
  else if p.token1.wrapsTo c then some p.token0
  else none

/-- The pool leads from `a` to `b`. -/
def connects (p : Pool) (a b : Currency) : Bool :=
  match p.other? a with
  | some c => c.wrapsTo b
  | none => false

/-- The pool's own vault over `c`, the first of its two currencies that is one. -/
def vaultOver? (p : Pool) (c : Currency) : Option Currency :=
  [p.token0, p.token1].find? fun t => t.isVaultOver c

def holdsVaultOver (p : Pool) (c : Currency) : Bool :=
  p.token0.isVaultOver c || p.token1.isVaultOver c

/-- The pool can carry the swap of a conversion from `a` to `b`. -/
def supports (p : Pool) (a b : Currency) : Conversion → Bool
  | .wrapOnly | .unwrapOnly => false
  | .underlyingToUnderlying =>
    (p.involves a && p.involves b) || (p.holdsVaultOver a && p.holdsVaultOver b)
  | .underlyingToBoosted => p.holdsVaultOver a && p.involves b
  | .boostedToUnderlying => p.involves a && p.holdsVaultOver b
  | .boostedToBoosted => p.involves a && p.involves b

end Pool

end SwapPlan

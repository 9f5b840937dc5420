import SwapPlan.Error

/-!
The faults of a path that all kinds of routes look for: currencies on several chains, native
currencies between the ends, and pools that do not lead from one currency to the next.
-/

namespace SwapPlan.Route

/-- The first currency of a path that is on another chain than its head, or native between
the ends. -/
def endpointFault? (path : List Currency) : Option Error :=
  let chain := (path.head?.map Currency.chainId).getD 0
  path.zipIdx.findSome? fun (c, i) =>
    if c.chainId ≠ chain then some (.otherChain i)
    else if c.isNative ∧ i ≠ 0 ∧ i + 1 ≠ path.length then some (.nativeInside i)
    else none

/-- Why a pool does not serve the hop from `a` to `b`. -/
def hopFault? (hop : Nat) (p : Pool) (a b : Currency) : Option Error :=
  if a.wrapsTo b then some (.selfSwap hop)
  else if p.connects a b then none
  else some (.disconnected hop a.address b.address)

/-- The neighbours along a path. -/
def pairs (path : List Currency) : List (Currency × Currency) := path.zip path.tail

end SwapPlan.Route

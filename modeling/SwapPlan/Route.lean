import SwapPlan.Route.Pooled
import SwapPlan.Route.Boosted

/-!
Routes of either kind.
-/

namespace SwapPlan

inductive Route
  | pooled (route : PoolRoute)
  | boosted (route : BoostedRoute)

/-- The protocols under which routes are written: one of the pools', or the mixed one. -/
inductive Route.Family
  | pooled (protocol : Protocol)
  | boosted
deriving DecidableEq

namespace Route

def ofPath (family : Family) (path : List Currency) (pools : List Pool) : Except Error Route :=
  match family with
  | .pooled protocol => do return .pooled (← PoolRoute.ofPath protocol path pools)
  | .boosted => do return .boosted (← BoostedRoute.ofPath path pools)

def family : Route → Family
  | pooled r => .pooled r.protocol
  | boosted _ => .boosted

def path : Route → List Currency
  | pooled r => r.path
  | boosted r => r.path

def pools : Route → List Pool
  | pooled r => r.pools
  | boosted r => r.pools

def input : Route → Currency
  | pooled r => r.input
  | boosted r => r.input

def output : Route → Currency
  | pooled r => r.output
  | boosted r => r.output

def isBoosted : Route → Bool
  | pooled _ => false
  | boosted _ => true

end Route

end SwapPlan

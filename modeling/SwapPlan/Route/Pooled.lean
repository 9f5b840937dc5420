import SwapPlan.Route.Check

/-!
Routes through pools of one protocol. A route exists only over a path without faults, so its
path has one currency more than it has pools.
-/

namespace SwapPlan

namespace PoolRoute

/-- The first fault of a path through pools of one protocol. -/
def fault? (protocol : Protocol) (path : List Currency) (pools : List Pool) : Option Error :=
  if pools = [] then some .noPools
  else if path.length ≠ pools.length + 1 then some (.pathLength path.length pools.length)
  else match pools.find? fun p => p.protocol ≠ protocol with
    | some p => some (.foreignPool p.protocol protocol)
    | none =>
      (Route.endpointFault? path).or <|
        ((Route.pairs path).zip pools).zipIdx.findSome? fun (((a, b), p), hop) =>
          Route.hopFault? hop p a b

end PoolRoute

structure PoolRoute where
  protocol : Protocol
  path : List Currency
  pools : List Pool
  sound : PoolRoute.fault? protocol path pools = none
deriving DecidableEq

namespace PoolRoute

def ofPath (protocol : Protocol) (path : List Currency) (pools : List Pool) :
    Except Error PoolRoute :=
  match h : fault? protocol path pools with
  | some e => .error e
  | none => .ok ⟨protocol, path, pools, h⟩

theorem length_path (r : PoolRoute) : r.path.length = r.pools.length + 1 := by
  have h := r.sound
  unfold fault? at h
  split at h
  · simp at h
  · split at h
    · simp at h
    · omega

theorem path_ne_nil (r : PoolRoute) : r.path ≠ [] := by
  have h := r.length_path
  intro h'
  simp [h'] at h

def input (r : PoolRoute) : Currency := r.path.head r.path_ne_nil

def output (r : PoolRoute) : Currency := r.path.getLast r.path_ne_nil

end PoolRoute

end SwapPlan

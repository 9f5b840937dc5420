import SwapPlan.Route.Check

/-!
Routes that mix swaps with vault deposits and redemptions. A path fixes the steps: neighbours
related by a vault become a vault step, and every other pair takes the next pool.
-/

namespace SwapPlan

/-- One transition of a boosted route. -/
inductive Step
  | wrap (vault : Vault)
  | unwrap (vault : Vault)
  | swap (tokenIn tokenOut : Currency) (pool : Pool)
deriving DecidableEq

namespace Step

def tokenIn : Step → Currency
  | wrap v => .token v.underlying
  | unwrap v => .vault v
  | swap a _ _ => a

def tokenOut : Step → Currency
  | wrap v => .vault v
  | unwrap v => .token v.underlying
  | swap _ b _ => b

def isSwap : Step → Bool
  | swap .. => true
  | _ => false

def pool? : Step → Option Pool
  | swap _ _ p => some p
  | _ => none

/-- The deposit or redemption that leads from `a` to `b` without a swap. -/
def vaultStep? (a b : Currency) : Option Step :=
  match a.asVault?, b.asVault? with
  | none, some v => if v.underlying.same a.wrapped then some (wrap v) else none
  | some v, none => if v.underlying.same b.wrapped then some (unwrap v) else none
  | _, _ => none

end Step

namespace BoostedRoute

/-- The first currency of a path whose wrapped token came before. -/
def revisited? : (seen : List Address) → List Currency → Option Address
  | _, [] => none
  | seen, c :: cs =>
    if c.address ∈ seen then some c.address else revisited? (c.address :: seen) cs

/-- The steps over the neighbours of a path from hop `hop` on, and the pools they leave. -/
def walk : (hop : Nat) → List (Currency × Currency) → List Pool →
    Except Error (List Step × List Pool)
  | _, [], pools => .ok ([], pools)
  | hop, (a, b) :: pairs, pools =>
    match Step.vaultStep? a b with
    | some s => do
      let (steps, left) ← walk (hop + 1) pairs pools
      return (s :: steps, left)
    | none =>
      match pools with
      | [] => .error (.hopWithoutPool hop)
      | p :: pools =>
        match Route.hopFault? hop p a b with
        | some e => .error e
        | none => do
          let (steps, left) ← walk (hop + 1) pairs pools
          return (.swap a b p :: steps, left)

/-- The steps of a path over its pools, or the first fault of either. -/
def steps? (path : List Currency) (pools : List Pool) : Except Error (List Step) :=
  if path.length < 2 then .error .tooFewTokens
  else match Route.endpointFault? path with
    | some e => .error e
    | none =>
      match revisited? [] path with
      | some a => .error (.visitedTwice a)
      | none => do
        let (steps, left) ← walk 0 (Route.pairs path) pools
        if left = [] then return steps
        else throw (.poolsLeft pools.length (steps.countP Step.isSwap))

end BoostedRoute

structure BoostedRoute where
  path : List Currency
  pools : List Pool
  steps : List Step
  sound : BoostedRoute.steps? path pools = .ok steps

namespace BoostedRoute

def ofPath (path : List Currency) (pools : List Pool) : Except Error BoostedRoute :=
  match h : steps? path pools with
  | .error e => .error e
  | .ok steps => .ok ⟨path, pools, steps, h⟩

theorem two_le_length_path (r : BoostedRoute) : 2 ≤ r.path.length := by
  have h := r.sound
  unfold steps? at h
  split at h
  · simp at h
  · omega

theorem path_ne_nil (r : BoostedRoute) : r.path ≠ [] := by
  have h := r.two_le_length_path
  intro h'
  simp [h'] at h

def input (r : BoostedRoute) : Currency := r.path.head r.path_ne_nil

def output (r : BoostedRoute) : Currency := r.path.getLast r.path_ne_nil

def swapCount (r : BoostedRoute) : Nat := r.steps.countP Step.isSwap

/-- The path from `a` to `b` through one pool, by way of the pool's own vaults where the pool
does not hold an end itself. A conversion that is a vault step takes no pool. -/
def singlePoolPath (a b : Currency) (p : Pool) : Conversion → Except Error (List Currency)
  | .underlyingToBoosted => do return [a, ← vaultOver a, b]
  | .boostedToUnderlying => do return [a, ← vaultOver b, b]
  | .underlyingToUnderlying =>
    if p.involves a && p.involves b then .ok [a, b]
    else do return [a, ← vaultOver a, ← vaultOver b, b]
  | .boostedToBoosted => .ok [a, b]
  | .wrapOnly => .error (.takesNoPool .wrapOnly)
  | .unwrapOnly => .error (.takesNoPool .unwrapOnly)
where
  vaultOver (c : Currency) : Except Error Currency :=
    match p.vaultOver? c with
    | some v => .ok v
    | none => .error (.noVaultOver c.address)

/-- The canonical route between two currencies through at most one pool. -/
def singlePool (a b : Currency) (pool : Option Pool) : Except Error BoostedRoute :=
  let conversion := Conversion.of a b
  match pool with
  | none =>
    match conversion with
    | .wrapOnly | .unwrapOnly => ofPath [a, b] []
    | _ => .error (.poolRequired conversion)
  | some p =>
    if p.supports a b conversion then do
      ofPath (← singlePoolPath a b p conversion) [p]
    else .error (.cannotRealize conversion)

end BoostedRoute

end SwapPlan

import SwapPlan.Path.Swap

/-!
Boosted paths: the swaps of a route from its output back, each with the vault actions beside
it, in records of eighty-two bytes behind the first token.
-/

namespace SwapPlan.Path

/-- What is done with a vault beside a swap. -/
inductive VaultAction
  | none | wrap | unwrap
deriving DecidableEq

namespace VaultAction

def ofStep : Step → VaultAction
  | .wrap _ => wrap
  | .unwrap _ => unwrap
  | .swap .. => none

def byte : VaultAction → UInt8
  | none => 0
  | wrap => 1
  | unwrap => 2

def ofByte (b : UInt8) : Except Error VaultAction :=
  if b = 0 then .ok none
  else if b = 1 then .ok wrap
  else if b = 2 then .ok unwrap
  else .error (.unknownVaultAction b)

@[simp] theorem ofByte_byte (a : VaultAction) : ofByte a.byte = .ok a := by cases a <;> rfl

end VaultAction

/-- One swap with the vault actions behind and before it. Without an action the outer token is
the pool's own. -/
structure BoostedHop where
  tokenOut : Address
  wrapOut : VaultAction
  poolTokenOut : Address
  deployer : Address
  poolTokenIn : Address
  wrapIn : VaultAction
  tokenIn : Address
deriving DecidableEq

namespace BoostedHop

/-- A swap with the vault steps that lie before it, and after it if it is the last. -/
structure Leg where
  before : Option Step
  tokenIn : Currency
  tokenOut : Currency
  pool : Pool
  after : Option Step

/-- The swaps of a route in order. A vault step belongs to the swap that it leads to; one behind
the last swap belongs to that swap. -/
def legs : (before : Option Step) → List Step → List Leg
  | _, [] => []
  | before, .swap a b p :: steps =>
    if steps.any Step.isSwap then ⟨before, a, b, p, none⟩ :: legs none steps
    else [⟨before, a, b, p, steps.head?⟩]
  | _, s :: steps => legs (some s) steps

/-- The positions of the swaps among the steps. -/
def swapPositions (steps : List Step) : List Nat :=
  steps.zipIdx.filterMap fun (s, i) => if s.isSwap then some i else none

/-- Why the vault steps of a route do not fit beside its swaps. -/
def shapeFault? (steps : List Step) : Option Error :=
  let swaps := swapPositions steps
  match swaps.head?, swaps.getLast? with
  | some first, some last =>
    if first > 1 ∨ steps.length - last > 2 then some .crowdedEnd
    else if (swaps.zip swaps.tail).any fun (i, j) => j - i > 2 then some .crowdedGap
    else none
  | _, _ => some .noSwapStep

def ofLeg (l : Leg) : Except Error BoostedHop := do
  let deployer ← SwapPath.poolDeployer l.pool
  return {
    tokenOut := (l.after.map Step.tokenOut).elim l.tokenOut.address Currency.address
    wrapOut := (l.after.map VaultAction.ofStep).getD .none
    poolTokenOut := l.tokenOut.address
    deployer
    poolTokenIn := l.tokenIn.address
    wrapIn := (l.before.map VaultAction.ofStep).getD .none
    tokenIn := (l.before.map Step.tokenIn).elim l.tokenIn.address Currency.address }

/-- The hops of a route, last swap first. -/
def ofSteps (steps : List Step) : Except Error (List BoostedHop) :=
  match shapeFault? steps with
  | some e => .error e
  | none => (legs none steps).reverse.mapM ofLeg

/-- The first two neighbours that do not share a token. -/
def chainFault? : (idx : Nat) → List BoostedHop → Option Error
  | idx, g :: h :: hops =>
    if g.tokenIn = h.tokenOut then chainFault? (idx + 1) (h :: hops)
    else some (.brokenChain idx g.tokenIn h.tokenOut)
  | _, _ => none

def recordSize : Nat := 82

/-- All of a hop but its outer output token. -/
def encodeRecord (h : BoostedHop) : Bytes :=
  h.wrapOut.byte :: h.poolTokenOut.bytes ++ h.deployer.bytes ++ h.poolTokenIn.bytes ++
    h.wrapIn.byte :: h.tokenIn.bytes

/-- The first output token, then a record for each hop. -/
def encode (hops : List BoostedHop) : Except Error Bytes :=
  match hops with
  | [] => .error .noHops
  | h :: _ =>
    match chainFault? 0 hops with
    | some e => .error e
    | none => .ok (h.tokenOut.bytes ++ hops.flatMap encodeRecord)

/-- The hop of a record whose outer output token is `tokenOut`. -/
def decodeRecord (tokenOut : Address) (bs : Bytes) : Except Error BoostedHop := do
  let wrapOut ← VaultAction.ofByte (bs.getD 0 0)
  let wrapIn ← VaultAction.ofByte (bs.getD 61 0)
  return {
    tokenOut, wrapOut
    poolTokenOut := .ofLeading (bs.drop 1)
    deployer := .ofLeading (bs.drop 21)
    poolTokenIn := .ofLeading (bs.drop 41)
    wrapIn
    tokenIn := .ofLeading (bs.drop 62) }

def decodeRecords : (records : Nat) → Address → Bytes → Except Error (List BoostedHop)
  | 0, _, _ => .ok []
  | n + 1, tokenOut, bs => do
    let h ← decodeRecord tokenOut bs
    let hops ← decodeRecords n h.tokenIn (bs.drop recordSize)
    return h :: hops

def decode (bs : Bytes) : Except Error (List BoostedHop) :=
  if bs.length < 20 + recordSize ∨ (bs.length - 20) % recordSize ≠ 0 then
    .error (.boostedLength bs.length)
  else decodeRecords ((bs.length - 20) / recordSize) (.ofLeading bs) (bs.drop 20)

def encodeRoute (r : BoostedRoute) : Except Error Bytes := do
  encode (← ofSteps r.steps)

end BoostedHop

end SwapPlan.Path

import SwapPlan.Address
import SwapPlan.Amount

/-!
The chains with a known wrapped native token, the accounts and amounts that the interpreter
replaces at execution, and the defaults of encoding.
-/

namespace SwapPlan

namespace Chain

/-- Ethereum, Optimism, BNB Smart Chain, Polygon, Base and Arbitrum. -/
def known : List UInt64 := [1, 10, 56, 137, 8453, 42161]

/-- The contract that wraps the native currency of a chain. -/
def wrappedNative? (chain : UInt64) : Option Address :=
  if chain = 1 then some (.ofNat 0xC02aaA39b223FE8D0A0e5C4F27eAD9083C756Cc2)
  else if chain = 10 ∨ chain = 8453 then some (.ofNat 0x4200000000000000000000000000000000000006)
  else if chain = 56 then some (.ofNat 0xBB4CdB9CBd36B01bD1cBaEBF2De08d9173bc095c)
  else if chain = 137 then some (.ofNat 0x7ceB23fD6bC0adD59E62ac25578270cFf1b9f619)
  else if chain = 42161 then some (.ofNat 0x82aF49447D8a07e3bd95BD0d56f35241523fBab1)
  else none

/-- The contract that runs many calls in one. -/
def multicall3 : Address := .ofNat 0xcA11bde05977b3631167028862bE2a173976CA11

end Chain

namespace Sentinel

/-- Stands for the account that calls the router. -/
def caller : Address := .ofNat 1

/-- Stands for the router itself. -/
def router : Address := .ofNat 2

/-- Stands for the native currency where a token is expected. -/
def native : Address := .zero

/-- Stands for the router's whole balance of a token. -/
def wholeBalance : Amount := BitVec.intMin 256

end Sentinel

namespace Defaults

/-- The number of basis points in a whole. -/
def wholeBps : Nat := 10000

def slippageBps : UInt64 := 50

/-- How long a plan stays valid, in seconds. -/
def deadlineSecs : UInt64 := 1800

/-- The margin below amounts that were previewed, in basis points. -/
def roundingBufferBps : UInt16 := 5

/-- The fee of every constant-product pool, in millionths. -/
def v2Fee : UInt32 := 3000

def logLevel : String := "info"

end Defaults

end SwapPlan

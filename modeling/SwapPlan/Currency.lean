import SwapPlan.Address

/-!
Tokens, vault shares and native currencies. A token is known by its chain and its address;
a currency stands inside pools and vaults as its wrapped token.
-/

namespace SwapPlan

structure Token where
  chainId : UInt64
  address : Address
  decimals : UInt8
  symbol : Option String
deriving DecidableEq

/-- The same contract on the same chain. -/
def Token.same (a b : Token) : Bool := a.chainId = b.chainId ∧ a.address = b.address

/-- A vault's share token and the token that it holds. -/
structure Vault where
  token : Token
  underlying : Token
deriving DecidableEq

def Vault.address (v : Vault) : Address := v.token.address

def Vault.same (a b : Vault) : Bool := a.token.same b.token && a.underlying.same b.underlying

inductive Currency
  | native (chainId : UInt64) (wrapped : Token)
  | token (token : Token)
  | vault (vault : Vault)
deriving DecidableEq

namespace Currency

def chainId : Currency → UInt64
  | native chain _ => chain
  | token t => t.chainId
  | vault v => v.token.chainId

def isNative : Currency → Bool
  | native .. => true
  | _ => false

def asVault? : Currency → Option Vault
  | vault v => some v
  | _ => none

/-- The token that represents a currency inside pools and vaults. -/
def wrapped : Currency → Token
  | native _ w => w
  | token t => t
  | vault v => v.token

def address (c : Currency) : Address := c.wrapped.address

/-- The same asset once native currencies are wrapped. -/
def wrapsTo (a b : Currency) : Bool := a.wrapped.same b.wrapped

/-- The same kind of currency over the same tokens. -/
def same : Currency → Currency → Bool
  | native c w, native c' w' => c = c' && w.same w'
  | token t, token t' => t.same t'
  | vault v, vault v' => v.same v'
  | _, _ => false

/-- A vault whose underlying token is the wrapped token of `c`. -/
def isVaultOver (v c : Currency) : Bool :=
  match v.asVault? with
  | some v => v.underlying.same c.wrapped
  | none => false

end Currency

/-- What it takes to move between two currencies where vaults may stand at either end. -/
inductive Conversion
  | wrapOnly | unwrapOnly | underlyingToUnderlying | underlyingToBoosted | boostedToUnderlying
  | boostedToBoosted
deriving DecidableEq

namespace Conversion

def all : List Conversion :=
  [wrapOnly, unwrapOnly, underlyingToUnderlying, underlyingToBoosted, boostedToUnderlying,
   boostedToBoosted]

def name : Conversion → String
  | wrapOnly => "WrapOnly"
  | unwrapOnly => "UnwrapOnly"
  | underlyingToUnderlying => "UnderlyingToUnderlying"
  | underlyingToBoosted => "UnderlyingToBoosted"
  | boostedToUnderlying => "BoostedToUnderlying"
  | boostedToBoosted => "BoostedToBoosted"

/-- A currency and a vault over it convert without a swap; other pairs by which ends are
vault shares. -/
def of (a b : Currency) : Conversion :=
  match a.asVault?, b.asVault? with
  | none, some v => if v.underlying.same a.wrapped then wrapOnly else underlyingToBoosted
  | some v, none => if v.underlying.same b.wrapped then unwrapOnly else boostedToUnderlying
  | none, none => underlyingToUnderlying
  | some _, some _ => boostedToBoosted

end Conversion

end SwapPlan

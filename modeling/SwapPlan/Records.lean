import SwapPlan.Json.Record
import SwapPlan.Text.Numeral
import SwapPlan.Trade

/-!
The JSON records of the library's values. Amounts are read from numerals and small whole numbers
and written in hexadecimal; bytes and addresses are read from hexadecimal texts and from arrays
of numbers.
-/

namespace SwapPlan

open Json (Read Record listOf nullable readNat readText)

namespace Json

/-- An unsigned number below `2 ^ w`. A number that is not a text fits 64 bits. -/
def readUint (w : Nat) : Json → Read (BitVec w)
  | .str s =>
    match Text.numeral? s with
    | some n => if n < Nat.pow 2 w then .ok (BitVec.ofNat w n) else .error .malformed
    | none => .error .malformed
  | j => do return BitVec.ofNat w (← readNat (UInt64.size - 1) j)

def ofUint {w : Nat} (n : BitVec w) : Json := .str (Hex.ofNat n.toNat)

def readAmount : Json → Read Amount := readUint 256

def readByte (j : Json) : Read UInt8 := do return UInt8.ofNat (← readNat 255 j)

def readUInt16 (j : Json) : Read UInt16 := do return UInt16.ofNat (← readNat (UInt16.size - 1) j)

def readUInt32 (j : Json) : Read UInt32 := do return UInt32.ofNat (← readNat (UInt32.size - 1) j)

def readUInt64 (j : Json) : Read UInt64 := do return UInt64.ofNat (← readNat (UInt64.size - 1) j)

def readInt32 : Json → Read Int32
  | .int i =>
    if Int32.minValue.toInt ≤ i ∧ i ≤ Int32.maxValue.toInt then .ok (Int32.ofInt i)
    else .error .malformed
  | _ => .error .malformed

def readBytes : Json → Read Bytes
  | .str s =>
    match Hex.decode s with
    | some bs => .ok bs
    | none => .error .malformed
  | j => listOf readByte j

def ofBytes (bs : Bytes) : Json := .str (Hex.encode bs)

def readAddress (j : Json) : Read Address := do
  match Address.ofBytes? (← readBytes j) with
  | some a => return a
  | none => throw .malformed

def ofAddress (a : Address) : Json := .str a.toHex

def ofNullable {α : Type} (value : α → Json) : Option α → Json
  | some a => value a
  | none => .null

end Json

open Json (readAmount readUint readByte readUInt16 readUInt32 readUInt64 readInt32 readBytes
  readAddress ofUint ofBytes ofAddress ofNullable)

/-! ### Currencies -/

namespace Token

def record : Record Token :=
  (Record.field "chain_id" .required readUInt64 * (Record.field "address" .required readAddress *
    (Record.field "decimals" .required readByte *
      Record.field "symbol" (.default none) (nullable readText)))).map
    fun (chainId, address, decimals, symbol) => ⟨chainId, address, decimals, symbol⟩

def ofJson : Json → Read Token := record.ofJson

def fields (t : Token) : List (String × Json) :=
  [("chain_id", .int t.chainId.toNat), ("address", ofAddress t.address),
   ("decimals", .int t.decimals.toNat), ("symbol", ofNullable .str t.symbol)]

def toJson (t : Token) : Json := .obj t.fields

end Token

namespace Vault

def record : Record Vault :=
  (Record.field "token" .required Token.ofJson *
    Record.field "underlying" .required Token.ofJson).map fun (token, underlying) =>
    ⟨token, underlying⟩

end Vault

namespace Currency

/-- The native currency of a chain. Its wrapped token lies on the same chain, and may be left out
where it is known. -/
def ofNative (chainId : UInt64) (wrapped : Option Token) : Except Error Currency :=
  match wrapped with
  | some w =>
    if w.chainId = chainId then .ok (.native chainId w)
    else .error (.wrappedElsewhere w.chainId chainId)
  | none =>
    match Chain.wrappedNative? chainId with
    | some a => .ok (.native chainId ⟨chainId, a, 18, none⟩)
    | none => .error (.noWrappedNative chainId)

def nativeRecord : Record (UInt64 × Option Token) :=
  Record.field "chain_id" .required readUInt64 *
    Record.field "wrapped" (.default none) (nullable Token.ofJson)

def kinds : List String := ["native", "token", "vault"]

def read (form : Json.TagForm) (j : Json) : Read Currency := do
  let (kind, parts) ← Json.tagged form kinds "kind" j
  if kind = "native" then
    let (chainId, wrapped) ← nativeRecord.ofParts parts
    (ofNative chainId wrapped).mapError .refused
  else if kind = "token" then return .token (← Token.record.ofParts parts)
  else if kind = "vault" then return .vault (← Vault.record.ofParts parts)
  else throw .malformed

/-- A currency that stands for itself. -/
def ofJson : Json → Read Currency := read .named

/-- A currency inside a pool or a route. -/
def ofPart : Json → Read Currency := read .numbered

def toJson : Currency → Json
  | native chainId w =>
    .obj [("kind", .str "native"), ("chain_id", .int chainId.toNat), ("wrapped", w.toJson)]
  | token t => .obj (("kind", .str "token") :: t.fields)
  | vault v =>
    .obj [("kind", .str "vault"), ("token", v.token.toJson), ("underlying", v.underlying.toJson)]

end Currency

/-! ### Pools and routes -/

namespace Pool

def tokens : Record (Currency × Currency) :=
  Record.field "token0" .required Currency.ofPart * Record.field "token1" .required Currency.ofPart

def v2Record : Record Pool :=
  (tokens * (Record.field "reserve0" (.default 0) readAmount *
    Record.field "reserve1" (.default 0) readAmount)).map
    fun ((token0, token1), reserve0, reserve1) => ⟨token0, token1, .v2 reserve0 reserve1⟩

/-- Price, liquidity and tick. -/
def position : Record (BitVec 160 × Amount × Int32) :=
  Record.field "sqrt_price_x96" (.default 0) (readUint 160) *
    (Record.field "liquidity" (.default 0) readAmount *
      Record.field "tick" (.default 0) readInt32)

def v3Record : Record Pool :=
  (tokens * (Record.field "fee" .required readUInt32 * position)).map
    fun ((token0, token1), fee, price, liquidity, tick) =>
      ⟨token0, token1, .v3 fee price liquidity tick⟩

def integralRecord : Record Pool :=
  (tokens * (Record.field "deployer" (.default .zero) readAddress *
    (Record.field "fee" (.default 0) readUInt32 * position))).map
    fun ((token0, token1), deployer, fee, price, liquidity, tick) =>
      ⟨token0, token1, .integral deployer fee price liquidity tick⟩

def protocols : List String := ["v2", "v3", "integral"]

def read (form : Json.TagForm) (j : Json) : Read Pool := do
  let (protocol, parts) ← Json.tagged form protocols "protocol" j
  if protocol = "v2" then v2Record.ofParts parts
  else if protocol = "v3" then v3Record.ofParts parts
  else if protocol = "integral" then integralRecord.ofParts parts
  else throw .malformed

/-- A pool that stands for itself. -/
def ofJson : Json → Read Pool := read .named

/-- A pool of a route. -/
def ofPart : Json → Read Pool := read .numbered

def toJson (p : Pool) : Json :=
  let tokens : List (String × Json) := [("token0", p.token0.toJson), ("token1", p.token1.toJson)]
  let position (price : BitVec 160) (liquidity : Amount) (tick : Int32) : List (String × Json) :=
    [("sqrt_price_x96", ofUint price), ("liquidity", ofUint liquidity), ("tick", .int tick.toInt)]
  match p.state with
  | .v2 reserve0 reserve1 =>
    .obj (("protocol", .str "v2") :: tokens ++
      [("reserve0", ofUint reserve0), ("reserve1", ofUint reserve1)])
  | .v3 fee price liquidity tick =>
    .obj (("protocol", .str "v3") :: tokens ++
      ("fee", .int fee.toNat) :: position price liquidity tick)
  | .integral deployer fee price liquidity tick =>
    .obj (("protocol", .str "integral") :: tokens ++
      ("deployer", ofAddress deployer) :: ("fee", .int fee.toNat) ::
        position price liquidity tick)

end Pool

namespace Route

def Family.tag : Family → String
  | .pooled .v2 => "v2"
  | .pooled .v3 => "v3"
  | .pooled .integral => "integral"
  | .boosted => "boosted"

def Family.all : List Family := [.pooled .v2, .pooled .v3, .pooled .integral, .boosted]

def Family.ofTag? (tag : String) : Option Family := all.find? fun f => f.tag = tag

/-- A route as written, whether or not its path holds together. -/
structure Written where
  family : Family
  path : List Currency
  pools : List Pool
deriving DecidableEq

def Written.record : Record (List Currency × List Pool) :=
  Record.field "path" .required (listOf Currency.ofPart) *
    Record.field "pools" .required (listOf Pool.ofPart)

def Written.read (form : Json.TagForm) (j : Json) : Read Written := do
  let (tag, parts) ← Json.tagged form (Family.all.map Family.tag) "protocol" j
  match Family.ofTag? tag with
  | none => throw .malformed
  | some family =>
    let (path, pools) ← record.ofParts parts
    return ⟨family, path, pools⟩

def Written.route (w : Written) : Except Error Route := Route.ofPath w.family w.path w.pools

def read (form : Json.TagForm) (j : Json) : Read Route := do
  (← Written.read form j).route.mapError .refused

def ofJson : Json → Read Route := read .named

def toJson (r : Route) : Json :=
  .obj [("protocol", .str r.family.tag), ("path", .arr (r.path.map Currency.toJson)),
    ("pools", .arr (r.pools.map Pool.toJson))]

end Route

/-! ### Trades -/

namespace TradeType

def tag : TradeType → String
  | .exactInput => "exact_input"
  | .exactOutput => "exact_output"

def ofTag (s : String) : Read TradeType :=
  if s = tag .exactInput then .ok .exactInput
  else if s = tag .exactOutput then .ok .exactOutput
  else .error .malformed

/-- A bare tag, or an object that maps it to null. -/
def ofJson : Json → Read TradeType
  | .str s => ofTag s
  | .obj [(s, .null)] => ofTag s
  | _ => .error .malformed

end TradeType

namespace Permit

def record : Record Permit :=
  (Record.field "token" .required readAddress * (Record.field "amount" .required (readUint 160) *
    (Record.field "expiration" .required readUInt64 * (Record.field "nonce" .required readUInt64 *
      (Record.field "spender" .required readAddress *
        (Record.field "sig_deadline" .required readAmount *
          Record.field "signature" .required readBytes)))))).map
    fun (token, amount, expiration, nonce, spender, sigDeadline, signature) =>
      ⟨token, amount, expiration, nonce, spender, sigDeadline, signature⟩

def ofJson : Json → Read Permit := record.ofJson

def toJson (p : Permit) : Json :=
  .obj [("token", ofAddress p.token), ("amount", ofUint p.amount),
    ("expiration", .int p.expiration.toNat), ("nonce", .int p.nonce.toNat),
    ("spender", ofAddress p.spender), ("sig_deadline", ofUint p.sigDeadline),
    ("signature", ofBytes p.signature)]

end Permit

end SwapPlan

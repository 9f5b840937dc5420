import SwapPlan.Settings.Environment
import SwapPlan.Trade
import SwapPlan.Url

/-!
The settings of the encoder: where it runs, whom it asks, and the options of trades that name
none themselves. They come from a document and from the environment, which wins.
-/

namespace SwapPlan

structure Settings where
  debug : Bool
  jsonLogs : Bool
  logLevel : Option String
  chainId : UInt64
  rpcUrl : Option String
  router : Option Address
  quoter : Option Address
  multicall : Address
  slippageBps : UInt64
  /-- How long a plan stays valid; zero for ever. -/
  deadlineSecs : UInt64
  bufferBps : UInt16
  safeMode : Bool
  /-- The version of the opcode table that the interpreter expects. -/
  tableVersion : Option UInt32
deriving DecidableEq

namespace Settings

section Reading

variable {α : Type}

/-- A setting that has a default. -/
def required (s : Fields) (name : String) (absent : α) (value : SettingValue → Option α) :
    Option α :=
  match s.get? name with
  | none => some absent
  | some v => value v

/-- A setting that may be missing or null. -/
def optional (s : Fields) (name : String) (value : SettingValue → Option α) :
    Option (Option α) :=
  match s.get? name with
  | none | some .null => some none
  | some v => (value v).map some

end Reading

/-- A whole number below `2 ^ w`. -/
def toBits? (w : Nat) (v : SettingValue) : Option (BitVec w) :=
  (v.toNat? (Nat.pow 2 w - 1)).map (BitVec.ofNat w)

def toUInt64? (v : SettingValue) : Option UInt64 := (toBits? 64 v).map UInt64.ofBitVec

/-- Reads every setting; unknown names do not count. -/
def ofFields? (s : Fields) : Option Settings := do
  let debug ← required s "debug" false SettingValue.toBool?
  let jsonLogs ← required s "json_logs" false SettingValue.toBool?
  let logLevel ← optional s "log_level" SettingValue.toText?
  let chainId ← required s "chain_id" 1 toUInt64?
  let rpcUrl ← optional s "rpc_url" SettingValue.toText?
  let router ← optional s "router_address" SettingValue.toAddress?
  let quoter ← optional s "quoter_address" SettingValue.toAddress?
  let multicall ← required s "multicall_address" Chain.multicall3 SettingValue.toAddress?
  let slippageBps ← required s "slippage_bps" Defaults.slippageBps toUInt64?
  let deadlineSecs ← required s "deadline_secs" Defaults.deadlineSecs toUInt64?
  let bufferBps ← required s "rounding_buffer_bps" Defaults.roundingBufferBps
    fun v => (toBits? 16 v).map UInt16.ofBitVec
  let safeMode ← required s "safe_mode" false SettingValue.toBool?
  let tableVersion ← optional s "command_table_version"
    fun v => (toBits? 32 v).map UInt32.ofBitVec
  return { debug, jsonLogs, logLevel, chainId, rpcUrl, router, quoter, multicall, slippageBps,
           deadlineSecs, bufferBps, safeMode, tableVersion }

/-- The first setting whose value makes no sense. -/
def fault? (s : Settings) : Option Error :=
  if s.chainId = 0 then some .zeroChain
  else if s.slippageBps.toNat > Defaults.wholeBps then some (.slippageAboveWhole s.slippageBps)
  else if s.bufferBps.toNat ≥ Defaults.wholeBps then some (.bufferAboveWhole s.bufferBps)
  else if s.rpcUrl.any fun url => (Url.ofText? url).isNone then some .badRpcUrl
  else none

/-! ### Sources -/

/-- The settings of a document and of environment variables. -/
def ofSources (document : Option (List (String × SettingValue)))
    (environment : List (String × String)) : Except Error Settings :=
  match document with
  | none => .error .settingsUnreadable
  | some fields =>
    let all := (Fields.addAll [] (Fields.ofList fields)).addAll (Environment.settings environment)
    match ofFields? all with
    | none => .error .settingsUnreadable
    | some s =>
      match s.fault? with
      | some e => .error e
      | none => .ok s

/-! ### What settings mean -/

def effectiveLogLevel (s : Settings) : String :=
  s.logLevel.getD (if s.debug then "debug" else Defaults.logLevel)

def quotingUrl (s : Settings) : Except Error Url :=
  match s.rpcUrl with
  | none => .error (.missingSetting "rpc_url")
  | some text =>
    match Url.ofText? text with
    | some url => .ok url
    | none => .error .badRpcUrl

def quoterAddress (s : Settings) : Except Error Address :=
  match s.quoter with
  | some a => .ok a
  | none => .error (.missingSetting "quoter_address")

/-- The deadline of a plan made at a time in seconds, capped at the last second of 64 bits. -/
def deadlineFrom (s : Settings) (now : UInt64) : Option Amount :=
  if s.deadlineSecs = 0 then none
  else some (BitVec.ofNat 256 (min (now.toNat + s.deadlineSecs.toNat) (UInt64.size - 1)))

/-- The options of a trade that names none itself. -/
def swapOptions (s : Settings) (recipient : Address) (now : UInt64) : Except Error SwapOptions := do
  let slippage ← Percent.ofBps s.slippageBps
  let buffer ← RoundingBuffer.ofBps s.bufferBps
  return { recipient, slippage, buffer
           deadline := s.deadlineFrom now, permit := none, safeMode := s.safeMode }

end Settings

end SwapPlan

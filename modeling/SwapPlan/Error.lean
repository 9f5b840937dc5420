import SwapPlan.Pool
import SwapPlan.Opcode

/-!
The reasons for which planning, encoding, quoting and reading are refused. A reason belongs to
a kind, which opens its message.
-/

namespace SwapPlan

inductive Error
  /-- The settings cannot be read or converted. -/
  | settingsUnreadable
  | zeroChain
  | slippageAboveWhole (bps : UInt64)
  | bufferAboveWhole (bps : UInt16)
  | badRpcUrl
  | missingSetting (key : String)
  | multicallFailed
  | zeroDenominator
  | toleranceAboveWhole
  | onePlusToleranceTooLarge
  | amountTooLarge (amount : Amount)
  | bufferVoid (bps : UInt16)
  | noWrappedNative (chain : UInt64)
  | wrappedElsewhere (wrapped native : UInt64)
  | noSwaps
  | totalInputTooLarge
  | totalOutputTooLarge
  | startsElsewhere (route : Nat)
  | endsElsewhere (route : Nat)
  | deliveredTooLarge
  | permitToken (covers spends : Address)
  | permitRange
  | inputAboveTransfer (amount : Amount)
  | manySwapSteps (swaps : Nat)
  | stepAmountsMissing
  | stepAmountCount (amounts steps : Nat)
  | inputUndecodable (opcode : Opcode)
  | notEmitted (opcode : Opcode)
  | unknownByte (byte : UInt8)
  | unevenParts (commands inputs : Nat)
  | notExecute
  | notHex
  | unreadableInput
  | requestUnreadable
  | requestRefused (cause : Error)
  | noPools
  | pathLength (tokens pools : Nat)
  | otherChain (index : Nat)
  | nativeInside (index : Nat)
  | selfSwap (hop : Nat)
  | disconnected (hop : Nat) (a b : Address)
  | tooFewTokens
  | visitedTwice (token : Address)
  | hopWithoutPool (hop : Nat)
  | poolsLeft (supplied used : Nat)
  | feeTooWide (fee : UInt32)
  | truncatedFee
  | truncatedDeployer
  | packedCounts (tokens pools : Nat)
  | packedLength (bytes hop : Nat)
  | unknownVaultAction (byte : UInt8)
  | noSwapStep
  | crowdedEnd
  | crowdedGap
  | noHops
  | brokenChain (hop : Nat) (ends starts : Address)
  | boostedLength (bytes : Nat)
  | foreignPool (pool route : Protocol)
  | poolRequired (conversion : Conversion)
  | cannotRealize (conversion : Conversion)
  | takesNoPool (conversion : Conversion)
  | noVaultOver (token : Address)
  | notFeePool (pool : Protocol)
  | notDeployerPool (pool : Protocol)
  | vaultOnlyExactOutput
  | notRevertible (opcode : Opcode)
  | nativeInputWithPermit
  | quote (reason : String)
  | outputCount (outputs commands : Nat)
  | swapOutputUndecodable
  | vaultOutputUndecodable
  | noOutput
  | quoterCallFailed
  | multicallCount (results calls : Nat)
  | previewFailed (method : String) (vault : Address)
  | tableVersion (expected : UInt32)

namespace Error

/-- The kinds of refusal; a validation names the field at fault. -/
inductive Kind
  | config | connection | validation (field : String) | invalidPath | unsupportedRoute
  | invalidRevertFlag | nativeInputWithPermit | quote | commandTable

def kind : Error → Kind
  | settingsUnreadable | zeroChain | slippageAboveWhole _ | bufferAboveWhole _ | badRpcUrl
  | missingSetting _ => .config
  | multicallFailed => .connection
  | zeroDenominator | toleranceAboveWhole | onePlusToleranceTooLarge => .validation "slippage"
  | amountTooLarge _ => .validation "amount"
  | bufferVoid _ => .validation "rounding_buffer_bps"
  | noWrappedNative _ | wrappedElsewhere .. => .validation "wrapped"
  | noSwaps | totalInputTooLarge | totalOutputTooLarge | startsElsewhere _ | endsElsewhere _
  | deliveredTooLarge => .validation "swaps"
  | permitToken .. => .validation "input_permit.token"
  | permitRange => .validation "input_permit"
  | inputAboveTransfer _ => .validation "input_amount"
  | manySwapSteps _ => .validation "route.steps"
  | stepAmountsMissing | stepAmountCount .. => .validation "step_amounts_out"
  | inputUndecodable _ | unevenParts .. => .validation "inputs"
  | notEmitted _ | unknownByte _ => .validation "commands"
  | notExecute | notHex => .validation "calldata"
  | unreadableInput => .validation "input"
  | requestUnreadable | requestRefused _ => .validation "request"
  | noPools | pathLength .. | otherChain _ | nativeInside _ | selfSwap _ | disconnected ..
  | tooFewTokens | visitedTwice _ | hopWithoutPool _ | poolsLeft .. | feeTooWide _
  | truncatedFee | truncatedDeployer | packedCounts .. | packedLength .. | unknownVaultAction _
  | noSwapStep | crowdedEnd | crowdedGap | noHops | brokenChain .. | boostedLength _ =>
    .invalidPath
  | foreignPool .. | poolRequired _ | cannotRealize _ | takesNoPool _ | noVaultOver _
  | notFeePool _ | notDeployerPool _ | vaultOnlyExactOutput => .unsupportedRoute
  | notRevertible _ => .invalidRevertFlag
  | nativeInputWithPermit => .nativeInputWithPermit
  | quote _ | outputCount .. | swapOutputUndecodable | vaultOutputUndecodable | noOutput
  | quoterCallFailed | multicallCount .. | previewFailed .. => .quote
  | tableVersion _ => .commandTable

/-- The words with which the messages of a kind begin. -/
def Kind.lead : Kind → String
  | config => "Configuration error: "
  | connection => "Connection failed to endpoint: "
  | validation field => "Validation failed for field " ++ field ++ ": "
  | invalidPath => "Invalid path: "
  | unsupportedRoute => "Unsupported route: "
  | quote => "Quote failed: "
  | commandTable => "Command table mismatch: "
  | invalidRevertFlag | nativeInputWithPermit => ""

/-- What a message says after the words of its kind. -/
def detail : Error → String
  | settingsUnreadable => "the settings cannot be read"
  | zeroChain => "chain_id must be non-zero"
  | slippageAboveWhole bps => s!"slippage_bps {bps} exceeds {Defaults.wholeBps}"
  | bufferAboveWhole bps => s!"rounding_buffer_bps {bps} must stay below {Defaults.wholeBps}"
  | badRpcUrl => "Invalid RPC URL"
  | missingSetting key => s!"{key} is required for quoting"
  | multicallFailed => "multicall failed"
  | zeroDenominator => "denominator is zero"
  | toleranceAboveWhole => "tolerance exceeds 100%"
  | onePlusToleranceTooLarge => "1 + tolerance overflows uint256"
  | amountTooLarge amount => s!"{amount.toNat} is too large to scale"
  | bufferVoid bps => s!"{bps} bps would zero every bound"
  | noWrappedNative chain => s!"no wrapped native token known for chain {chain}"
  | wrappedElsewhere wrapped native => s!"wrapped token is on chain {wrapped}, native on {native}"
  | noSwaps => "trade has no routes"
  | totalInputTooLarge => "total input overflows uint256"
  | totalOutputTooLarge => "total output overflows uint256"
  | startsElsewhere route => s!"route {route} starts from a different currency"
  | endsElsewhere route => s!"route {route} ends in a different currency"
  | deliveredTooLarge => "delivered output overflows uint256"
  | permitToken covers spends =>
    s!"permit covers {covers.checksummed} but the trade spends {spends.checksummed}"
  | permitRange => "expiration and nonce must fit in uint48"
  | inputAboveTransfer amount => s!"{amount.toNat} exceeds the Permit2 uint160 range"
  | manySwapSteps swaps =>
    s!"exact-output boosted route has {swaps} swap steps; at most one is supported"
  | stepAmountsMissing => "required for exact-output boosted routes"
  | stepAmountCount amounts steps => s!"{amounts} amounts for {steps} steps"
  | inputUndecodable opcode => s!"{opcode.name} input does not decode"
  | notEmitted opcode => s!"{opcode.name} is not emitted by this encoder"
  | unknownByte byte => "unknown command byte " ++ Hex.encode [byte]
  | unevenParts commands inputs => s!"{commands} commands for {inputs} inputs"
  | notExecute => "not an execute call"
  | notHex => "not valid hex"
  | unreadableInput => "the input cannot be read"
  | requestUnreadable => "the document cannot be read"
  | requestRefused cause => cause.kind.lead ++ cause.detail
  | noPools => "route has no pools"
  | pathLength tokens pools => s!"path has {tokens} tokens for {pools} pools"
  | otherChain index => s!"token {index} is on another chain"
  | nativeInside index => s!"native currency at intermediate position {index}"
  | selfSwap hop => s!"hop {hop} swaps a token for itself"
  | disconnected hop a b =>
    s!"hop {hop}: pool does not connect {a.checksummed} -> {b.checksummed}"
  | tooFewTokens => "boosted route needs two tokens"
  | visitedTwice token => s!"token {token.checksummed} visited twice"
  | hopWithoutPool hop => s!"hop {hop}: swap step has no pool"
  | poolsLeft supplied used => s!"{supplied} pools supplied, {used} used"
  | feeTooWide fee => s!"fee {fee} does not fit in 24 bits"
  | truncatedFee => "truncated fee"
  | truncatedDeployer => "truncated deployer"
  | packedCounts tokens pools => s!"{tokens} tokens for {pools} pools"
  | packedLength bytes hop => s!"packed path of {bytes} bytes is not 20 + k*{hop}"
  | unknownVaultAction byte => s!"unknown wrap action {byte}"
  | noSwapStep => "boosted path needs a swap step"
  | crowdedEnd => "more than one vault step at a route end"
  | crowdedGap => "more than one vault step between swaps"
  | noHops => "boosted path has no hops"
  | brokenChain hop ends starts =>
    s!"boosted hop {hop} ends at {ends.checksummed} but hop {hop + 1} starts at {starts.checksummed}"
  | boostedLength bytes => s!"boosted path of {bytes} bytes is not 20 + k*82"
  | foreignPool pool route => s!"{pool.name} pool inside a {route.name} route"
  | poolRequired conversion => s!"{conversion.name} route requires a pool"
  | cannotRealize conversion => s!"pool cannot realize a {conversion.name} swap"
  | takesNoPool conversion => s!"{conversion.name} route takes no pool"
  | noVaultOver token => s!"pool holds no vault over {token.checksummed}"
  | notFeePool pool => s!"{pool.name} pool in a fee path"
  | notDeployerPool pool => s!"{pool.name} pool in a deployer path"
  | vaultOnlyExactOutput => "vault-only exact-output routes are quoted from vault previews"
  | notRevertible opcode => s!"Command {opcode.title} cannot be marked as revertible"
  | nativeInputWithPermit => "Native input cannot be combined with a Permit2 permit"
  | quote reason => reason
  | outputCount outputs commands => s!"{outputs} outputs for {commands} commands"
  | swapOutputUndecodable => "swap output does not decode"
  | vaultOutputUndecodable => "vault output does not decode"
  | noOutput => "quoter returned no output"
  | quoterCallFailed => "quoter call failed"
  | multicallCount results calls => s!"multicall returned {results} results for {calls} calls"
  | previewFailed method vault => s!"{method} on vault {vault.checksummed} failed"
  | tableVersion expected =>
    s!"interpreter expects table v{expected}, encoder ships v{Opcode.tableVersion}"

def message (e : Error) : String := e.kind.lead ++ e.detail

end Error

end SwapPlan

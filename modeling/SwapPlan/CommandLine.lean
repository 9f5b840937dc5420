import SwapPlan.CommandLine.Arguments
import SwapPlan.CommandLine.Files
import SwapPlan.CommandLine.Report
import SwapPlan.Quote.Rpc
import SwapPlan.Request
import SwapPlan.Settings.EnvFile

/-!
Runs of the command line, as a function of the arguments and of what the run can see. Nothing is
reached over a network: every call of a quote fails.
-/

namespace SwapPlan.CommandLine

/-- What a run can see. -/
structure Surroundings where
  /-- The text of a file that can be read. -/
  file : String → Option String
  stdin : Option String
  /-- The variables that are set, in their order. -/
  environment : List (String × String)
  /-- The time in seconds. -/
  now : UInt64

structure Outcome where
  exitCode : Nat
  /-- The lines of the standard output. -/
  output : List String
  error : Option Error

/-! ### Settings -/

/-- The fields of the settings document. One that is named has to be there; without a name,
`router` is looked for and may be missing. -/
def document (w : Surroundings) (config : Option String) : Option (List (String × SettingValue)) :=
  match config with
  | some path =>
    match findDocument? w.file path with
    | some (text, f) => f.fields? text
    | none => none
  | none =>
    match findDocument? w.file "router" with
    | some (text, f) => f.fields? text
    | none => some []

/-- The variables, with those of a file that are not set. -/
def Surroundings.fullEnvironment (w : Surroundings) : List (String × String) :=
  match w.file ".env" with
  | some text => EnvFile.fill w.environment text
  | none => w.environment

def settings (w : Surroundings) (config : Option String) : Except Error Settings :=
  Settings.ofSources (document w config) w.fullEnvironment

/-! ### Tasks -/

/-- The names of the standard input. -/
def stdinNames : List String := ["-", "/dev/stdin"]

/-- The text of a file or of the standard input. -/
def Surroundings.read (w : Surroundings) (input : String) : Except Error String :=
  match if input ∈ stdinNames then w.stdin else w.file input with
  | some text => .ok text
  | none => .error .unreadableInput

def encode (w : Surroundings) (s : Settings) (input : String) : Except Error String := do
  let request ← TradeRequest.ofText (← w.read input)
  let (trade, options) ← request.resolve s w.now
  let call ← trade.callParameters options
  return (call.toJson s.router).pretty 0

/-- A transport on which every call fails. -/
def offline : Rpc.Transport Id where
  call _ _ := pure none

def quote (w : Surroundings) (s : Settings) (input : String) : Except Error String := do
  let document ← QuoteDocument.ofText (← w.read input)
  let _ ← s.quotingUrl
  let backend := Rpc.backend offline (← s.quoterAddress) s.multicall
  let vaults := Rpc.previews offline
  match document with
  | .single q => return (← (Quoter.quote backend vaults q).run.run).toJson.pretty 0
  | .batch qs =>
    let results := (Quoter.quoteBatch backend qs).run
    return (Json.arr (results.map (Json.ofNullable QuoteResult.toJson))).pretty 0

/-- The calldata itself, or behind an at sign the name of its file. -/
def calldata (w : Surroundings) (argument : String) : Except Error Bytes := do
  match argument.toList with
  | '@' :: path => Calldata.ofText (← w.read (String.ofList path))
  | _ => Calldata.ofText argument

/-- The plan of calldata, with its deadline. -/
def plan (w : Surroundings) (argument : String) : Except Error (Plan × Option Amount) := do
  let (commands, inputs, deadline) ← Calldata.decode (← calldata w argument)
  return (← Plan.ofParts commands inputs, deadline)

def decode (w : Surroundings) (argument : String) : List String × Option Error :=
  match plan w argument with
  | .error e => ([], some e)
  | .ok (p, deadline) =>
    let (lines, error) := Plan.lines 0 p.entries
    (deadline.toList.map (fun d => "deadline " ++ Text.ofAmount d) ++ lines, error)

def perform (w : Surroundings) (s : Settings) : Task → List String × Option Error
  | .encode input => written (encode w s input)
  | .quote input => written (quote w s input)
  | .decode argument => decode w argument
where
  written : Except Error String → List String × Option Error
    | .ok text => ([text], none)
    | .error e => ([], some e)

def usage : List String :=
  ["Usage: swap-plan [--config FILE] [--json-logs] TASK",
   "",
   "  encode [--input FILE]   encode a trade into calldata and value",
   "  quote [--input FILE]    quote one route or many",
   "  decode CALLDATA         list the commands of calldata, or of a file behind @"]

/-- The names that a task reads its input from. -/
def Task.inputs : Task → List String
  | .encode input | .quote input => [input]
  | .decode argument =>
    match argument.toList with
    | '@' :: path => [String.ofList path]
    | _ => []

/-- Whether a run reads the standard input. -/
def Request.readsStdin : Request → Bool
  | .run a => a.task.inputs.any (· ∈ stdinNames)
  | _ => false

/-- All files that a run may look at. -/
def Request.files : Request → List String
  | .run a =>
    let config := a.config.getD "router"
    ".env" :: config :: (extended config).map Prod.fst ++ a.task.inputs
  | _ => []

/-- A run: bad arguments exit with two, a task that fails with one. -/
def run (args : List String) (w : Surroundings) : Outcome :=
  match Request.ofArguments args with
  | .refused => ⟨2, [], none⟩
  | .help => ⟨0, usage, none⟩
  | .run a =>
    let prepared : Except Error Settings := do
      let s ← settings w a.config
      Plan.checkTable s.tableVersion
      return s
    match prepared with
    | .error e => ⟨1, [], some e⟩
    | .ok s =>
      let (output, error) := perform w s a.task
      ⟨if error.isSome then 1 else 0, output, error⟩

end SwapPlan.CommandLine

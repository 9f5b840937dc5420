import SwapPlan.CommandLine

/-!
The program: gathers what a run can see, and writes its outcome.
-/

namespace SwapPlan

/-- The text of a file, if it can be read. -/
def readText? (path : String) : IO (Option String) := do
  match ← (IO.FS.readFile path).toBaseIO with
  | .ok text => return some text
  | .error _ => return none

def readStdin? : IO (Option String) := do
  let input ← IO.getStdin
  match ← input.readToEnd.toBaseIO with
  | .ok text => return some text
  | .error _ => return none

/-- The variables of this process. -/
def readVariables : IO (List (String × String)) := do
  let text := (← readText? "/proc/self/environ").getD ""
  return (text.splitOn "\x00").filterMap fun entry =>
    match entry.toList with
    | [] => none
    | c :: cs =>
      if '=' ∈ cs then
        some (String.ofList (c :: cs.takeWhile (· ≠ '=')),
          String.ofList ((cs.dropWhile (· ≠ '=')).drop 1))
      else none

/-- The time in seconds, from the record of this process. -/
def readTime : IO UInt64 := do
  match ← (IO.FS.DirEntry.mk "/proc" "self").path.metadata.toBaseIO with
  | .ok m => return m.modified.sec.toNat.toUInt64
  | .error _ => return 0

def gather (r : CommandLine.Request) : IO CommandLine.Surroundings := do
  let texts ← r.files.mapM fun name => do return (name, ← readText? name)
  let stdin ← if r.readsStdin then readStdin? else pure none
  return {
    file := fun name => (texts.find? fun t => t.1 = name).bind Prod.snd
    stdin, environment := ← readVariables, now := ← readTime }

end SwapPlan

def main (args : List String) : IO UInt32 := do
  let surroundings ← SwapPlan.gather (.ofArguments args)
  let outcome := SwapPlan.CommandLine.run args surroundings
  for line in outcome.output do
    IO.println line
  if let some e := outcome.error then
    IO.eprintln ("Error: " ++ e.message)
  return outcome.exitCode.toUInt32

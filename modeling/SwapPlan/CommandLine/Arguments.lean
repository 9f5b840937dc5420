/-!
The arguments of the command line: flags that hold for every task, the name of a task, and what
the task works on.
-/

namespace SwapPlan.CommandLine

/-- What to do. Inputs are names of files, or a dash for the standard input. -/
inductive Task
  | encode (input : String)
  | quote (input : String)
  | decode (calldata : String)
deriving DecidableEq

structure Arguments where
  config : Option String
  jsonLogs : Bool
  task : Task
deriving DecidableEq

/-- What arguments ask for. -/
inductive Request
  | run (arguments : Arguments)
  | help
  | refused
deriving DecidableEq

/-- The form of one argument. -/
inductive Word
  | operand (text : String)
  | separator
  | long (name : String) (value : Option String)
  | short (letters : List Char)

namespace Word

def ofText (s : String) : Word :=
  match s.toList with
  | ['-', '-'] => separator
  | '-' :: '-' :: cs =>
    long (String.ofList (cs.takeWhile (· ≠ '=')))
      (if '=' ∈ cs then some (String.ofList ((cs.dropWhile (· ≠ '=')).drop 1)) else none)
  | ['-'] => operand s
  | '-' :: cs => short cs
  | _ => operand s

end Word

/-- What one level of arguments has given so far. -/
structure Given where
  config : Option String
  jsonLogs : Bool
  input : Option String
  operands : List String

def Given.none : Given := ⟨.none, false, .none, []⟩

/-- How a level of arguments ends: with all of them read, at the name of a task, or early. -/
inductive Level
  | read (given : Given) (rest : List String)
  | help
  | refused

/-- The rules of a level. -/
structure Rules where
  /-- The first operand ends the level. -/
  task : Bool
  /-- The level has an option for its input. -/
  input : Bool
  /-- How many operands the level takes. -/
  operands : Nat

namespace Rules

/-- The arguments before and at the name of a task. -/
def outer : Rules := ⟨true, false, 0⟩

/-- The arguments behind the name of a task. -/
def ofTask (name : String) : Rules :=
  if name = "decode" then ⟨false, false, 1⟩ else ⟨false, true, 0⟩

end Rules

/-- The flag with a value, unless it was given before. -/
def Given.put? (g : Given) (r : Rules) (name value : String) : Option Given :=
  if name = "config" then
    if g.config.isSome then .none else some { g with config := some value }
  else if name = "input" ∧ r.input then
    if g.input.isSome then .none else some { g with input := some value }
  else .none

/-- The level with an operand more, if it takes as many. -/
def Given.addOperand? (g : Given) (r : Rules) (text : String) : Option Given :=
  if g.operands.length < r.operands then some { g with operands := g.operands ++ [text] } else .none

/-- Reads a level up to the first argument that is out of place. A flag has its value behind an
equals sign or in the next argument, which must then not look like a flag. -/
def readLevel (r : Rules) (g : Given) : List String → Level
  | [] => .read g []
  | s :: rest =>
    match Word.ofText s with
    | .operand text =>
      if r.task then .read g (s :: rest)
      else match g.addOperand? r text with
        | some g => readLevel r g rest
        | .none => .refused
    | .separator =>
      if r.task then .refused
      else match rest.foldlM (fun g text => Given.addOperand? g r text) g with
        | some g => .read g []
        | .none => .refused
    | .short (c :: _) =>
      if c = 'h' ∨ (c = 'V' ∧ r.task) then .help else .refused
    | .short [] => .refused
    | .long name (some value) =>
      match g.put? r name value with
      | some g => readLevel r g rest
      | .none => .refused
    | .long name .none =>
      if name = "json-logs" then
        if g.jsonLogs then .refused else readLevel r { g with jsonLogs := true } rest
      else if name = "help" ∨ (name = "version" ∧ r.task) then .help
      else match rest with
        | value :: rest =>
          match Word.ofText value, g.put? r name value with
          | .operand _, some g => readLevel r g rest
          | _, _ => .refused
        | [] => .refused

/-- The task of a name, from what its level has given. -/
def task? (name : String) (g : Given) : Option Task :=
  match g.operands with
  | [] =>
    if name = "encode" then some (.encode (g.input.getD "-"))
    else if name = "quote" then some (.quote (g.input.getD "-"))
    else none
  | [calldata] => if name = "decode" then some (.decode calldata) else none
  | _ => none

def taskNames : List String := ["encode", "quote", "decode"]

/-- What the arguments ask for. Of a flag given before and behind the task's name, the latter
counts. -/
def Request.ofArguments (args : List String) : Request :=
  match readLevel .outer .none args with
  | .help => .help
  | .refused => .refused
  | .read _ [] => .refused
  | .read outer (name :: rest) =>
    if name = "help" then
      match rest with
      | [] => .help
      | [topic] => if topic ∈ "help" :: taskNames then .help else .refused
      | _ => .refused
    else if name ∉ taskNames then .refused
    else match readLevel (.ofTask name) .none rest with
      | .help => .help
      | .refused => .refused
      | .read inner _ =>
        match task? name inner with
        | none => .refused
        | some task =>
          .run ⟨inner.config.or outer.config, outer.jsonLogs || inner.jsonLogs, task⟩

end SwapPlan.CommandLine

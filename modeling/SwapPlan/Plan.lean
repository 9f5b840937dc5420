import SwapPlan.Command

/-!
Plans: lists of encoded commands, each with its flag and its input. A plan is handed over as one
byte string of commands and one input for each byte.
-/

namespace SwapPlan

namespace Plan

structure Entry where
  opcode : Opcode
  allowRevert : Bool
  input : Bytes
deriving DecidableEq

namespace Entry

def ofCommand (c : Command) (allowRevert : Bool) : Entry :=
  ⟨c.opcode, allowRevert, c.encode⟩

/-- The opcode with the revert flag. -/
def byte (e : Entry) : UInt8 :=
  if e.allowRevert then e.opcode.byte ||| Opcode.revertFlag else e.opcode.byte

def decode (e : Entry) : Except Error Command := Command.decode e.opcode e.input

/-- The entry of a command byte, whose second highest bit is ignored. -/
def ofByte (b : UInt8) (input : Bytes) : Except Error Entry :=
  match Opcode.ofByte? b with
  | some o => .ok ⟨o, b &&& Opcode.revertFlag ≠ 0, input⟩
  | none => .error (.unknownByte b)

@[simp] theorem ofByte_byte (e : Entry) : ofByte e.byte e.input = .ok e := by
  obtain ⟨o, allowRevert, input⟩ := e
  cases allowRevert <;> simp [ofByte, byte, Opcode.revertFlag_ne_zero]

end Entry

end Plan

structure Plan where
  entries : List Plan.Entry
deriving DecidableEq

namespace Plan

def empty : Plan := ⟨[]⟩

def ofCommands (cs : List Command) : Plan := ⟨cs.map fun c => Entry.ofCommand c false⟩

def size (p : Plan) : Nat := p.entries.length

def append (p q : Plan) : Plan := ⟨p.entries ++ q.entries⟩

instance : Append Plan := ⟨append⟩

def push (p : Plan) (c : Command) : Plan := ⟨p.entries ++ [Entry.ofCommand c false]⟩

/-- Appends a command, marked where `allowRevert` asks for it and its opcode permits it. -/
def pushRevertible (p : Plan) (c : Command) (allowRevert : Bool) : Except Error Plan :=
  if allowRevert && !c.opcode.isRevertible then .error (.notRevertible c.opcode)
  else .ok ⟨p.entries ++ [Entry.ofCommand c allowRevert]⟩

def commands (p : Plan) : Bytes := p.entries.map Entry.byte

def inputs (p : Plan) : List Bytes := p.entries.map Entry.input

/-- Appends a whole plan as one command. -/
def pushSubPlan (p sub : Plan) (allowRevert : Bool) : Except Error Plan :=
  p.pushRevertible (.executeSubPlan sub.commands sub.inputs) allowRevert

/-- The plan of command bytes and their inputs. -/
def ofParts (commands : Bytes) (inputs : List Bytes) : Except Error Plan :=
  if commands.length ≠ inputs.length then .error (.unevenParts commands.length inputs.length)
  else do return ⟨← (commands.zip inputs).mapM fun (b, input) => Entry.ofByte b input⟩

@[simp] theorem entries_append (p q : Plan) : (p ++ q).entries = p.entries ++ q.entries := rfl

@[simp] theorem commands_append (p q : Plan) : (p ++ q).commands = p.commands ++ q.commands := by
  simp [commands]

@[simp] theorem inputs_append (p q : Plan) : (p ++ q).inputs = p.inputs ++ q.inputs := by
  simp [inputs]

@[simp] theorem length_commands (p : Plan) : p.commands.length = p.size := by
  simp [commands, size]

@[simp] theorem length_inputs (p : Plan) : p.inputs.length = p.size := by
  simp [inputs, size]

theorem push_eq_append (p : Plan) (c : Command) : p.push c = p ++ ofCommands [c] := rfl

theorem ofCommands_append (cs ds : List Command) :
    ofCommands (cs ++ ds) = ofCommands cs ++ ofCommands ds := by
  rw [Plan.mk.injEq]
  simp [ofCommands]

/-- Whether an interpreter runs the plans of this library: the version of the opcode table that it
expects, if it names one, is the library's own. -/
def checkTable (expected : Option UInt32) : Except Error Unit :=
  match expected with
  | some v => if v.toNat = Opcode.tableVersion then .ok () else .error (.tableVersion v)
  | none => .ok ()

end Plan

end SwapPlan

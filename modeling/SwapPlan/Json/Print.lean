import SwapPlan.Json.Basic
import SwapPlan.Hex
import SwapPlan.Text.Decimal

/-!
Writing JSON texts, on one line or with one item a line and two spaces a level.
-/

namespace SwapPlan.Json

/-- A character inside quotes. -/
def quoteChar (c : Char) : List Char :=
  if c = '"' then ['\\', '"']
  else if c = '\\' then ['\\', '\\']
  else if c = '\n' then ['\\', 'n']
  else if c = '\r' then ['\\', 'r']
  else if c = '\t' then ['\\', 't']
  else if c = '\x08' then ['\\', 'b']
  else if c = '\x0c' then ['\\', 'f']
  else if c.toNat < 0x20 then '\\' :: 'u' :: '0' :: '0' :: Hex.digits [UInt8.ofNat c.toNat]
  else [c]

def quote (s : String) : String := String.ofList ('"' :: s.toList.flatMap quoteChar ++ ['"'])

/-- A scalar's text; `broken` and `unreadable` are never written by this library. -/
def scalar : Json → String
  | bool b => if b then "true" else "false"
  | int i => toString i
  | real x => Text.ofFloat x
  | str s => quote s
  | _ => "null"

mutual

/-- The text on one line. -/
def compress : Json → String
  | arr items => "[" ++ ",".intercalate (compressItems items) ++ "]"
  | obj fields => "\x7b" ++ ",".intercalate (compressFields fields) ++ "\x7d"
  | j => j.scalar

def compressItems : List Json → List String
  | [] => []
  | j :: js => compress j :: compressItems js

def compressFields : List (String × Json) → List String
  | [] => []
  | (name, j) :: fs => (quote name ++ ":" ++ compress j) :: compressFields fs

end

def indent (level : Nat) : String := String.ofList ('\n' :: List.replicate (2 * level) ' ')

/-- The parts of an array or object between its brackets, one a line. -/
def block (level : Nat) (opening closing : String) (lines : List String) : String :=
  if lines = [] then opening ++ closing
  else opening ++ indent (level + 1) ++ ("," ++ indent (level + 1)).intercalate lines ++
    indent level ++ closing

mutual

/-- The text with one item a line, inside `level` others. -/
def pretty : (level : Nat) → Json → String
  | level, arr items => block level "[" "]" (prettyItems (level + 1) items)
  | level, obj fields => block level "\x7b" "\x7d" (prettyFields (level + 1) fields)
  | _, j => j.scalar

def prettyItems : (level : Nat) → List Json → List String
  | _, [] => []
  | level, j :: js => pretty level j :: prettyItems level js

def prettyFields : (level : Nat) → List (String × Json) → List String
  | _, [] => []
  | level, (name, j) :: fs => (quote name ++ ": " ++ pretty level j) :: prettyFields level fs

end

end SwapPlan.Json

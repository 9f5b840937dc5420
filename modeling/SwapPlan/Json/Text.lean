import SwapPlan.Json.Number

/-!
Reading JSON texts. Every part of the reader takes the characters ahead and gives what it has
read together with the characters behind it, or no characters where the text stops being JSON.
-/

namespace SwapPlan.Json

/-- The characters behind a part, or nothing where the text has broken off. -/
abbrev Rest := Option (List Char)

def isSpace (c : Char) : Bool := c = ' ' ∨ c = '\t' ∨ c = '\n' ∨ c = '\r'

/-- The character that a one-letter escape stands for. -/
def escape? : Char → Option Char
  | '"' => some '"'
  | '\\' => some '\\'
  | '/' => some '/'
  | 'b' => some '\x08'
  | 'f' => some '\x0c'
  | 'n' => some '\n'
  | 'r' => some '\r'
  | 't' => some '\t'
  | _ => none

/-- The code units of a string up to its closing quote. Halves of surrogate pairs come only from
escapes. -/
def stringUnits : List Char → Option (List Nat × List Char)
  | [] => none
  | '"' :: rest => some ([], rest)
  | '\\' :: 'u' :: a :: b :: c :: d :: rest => do
    let unit ← Text.numberIn? 16 [a, b, c, d]
    let (units, rest) ← stringUnits rest
    return (unit :: units, rest)
  | '\\' :: e :: rest => do
    let c ← escape? e
    let (units, rest) ← stringUnits rest
    return (c.toNat :: units, rest)
  | c :: rest =>
    if c.toNat < 0x20 ∨ c = '\\' then none
    else do
      let (units, rest) ← stringUnits rest
      return (c.toNat :: units, rest)

/-- Joins surrogate pairs; fails where a half stands alone. -/
def joinUnits : List Nat → Option (List Char)
  | [] => some []
  | [u] => if 0xd800 ≤ u ∧ u < 0xe000 then none else some [Char.ofNat u]
  | u :: v :: us =>
    if 0xd800 ≤ u ∧ u < 0xdc00 ∧ 0xdc00 ≤ v ∧ v < 0xe000 then do
      let cs ← joinUnits us
      return Char.ofNat (0x10000 + (u - 0xd800) * 0x400 + (v - 0xdc00)) :: cs
    else if 0xd800 ≤ u ∧ u < 0xe000 then none
    else do
      let cs ← joinUnits (v :: us)
      return Char.ofNat u :: cs

/-- The string whose opening quote has been read. -/
def readString (cs : List Char) : Json × Rest :=
  match stringUnits cs with
  | none => (broken, none)
  | some (units, rest) =>
    match joinUnits units with
    | some chars => (str (String.ofList chars), some rest)
    | none => (unreadable, some rest)

def readNumber (negative : Bool) (cs : List Char) : Json × Rest :=
  match number? negative cs with
  | some (value, rest) => (value, some rest)
  | none => (broken, none)

/-- The behind of a fixed word. -/
def behind? : (word : List Char) → List Char → Option (List Char)
  | [], cs => some cs
  | w :: ws, c :: cs => if w = c then behind? ws cs else none
  | _ :: _, [] => none

def readWord (word : String) (value : Json) (cs : List Char) : Json × Rest :=
  match behind? word.toList cs with
  | some rest => (value, some rest)
  | none => (broken, none)

/-- The name of a field with its colon. -/
def readName (cs : List Char) : Option (String × List Char) :=
  match cs.dropWhile isSpace with
  | '"' :: cs =>
    match readString cs with
    | (str name, some cs) =>
      match cs.dropWhile isSpace with
      | ':' :: cs => some (name, cs)
      | _ => none
    | _ => none
  | _ => none

mutual

/-- The value ahead. The fuel is at least the number of characters. -/
def readValue : (fuel : Nat) → List Char → Json × Rest
  | 0, _ => (broken, none)
  | n + 1, cs =>
    match cs.dropWhile isSpace with
    | 'n' :: rest => readWord "ull" null rest
    | 't' :: rest => readWord "rue" (bool true) rest
    | 'f' :: rest => readWord "alse" (bool false) rest
    | '"' :: rest => readString rest
    | '-' :: rest => readNumber true rest
    | '[' :: rest =>
      match rest.dropWhile isSpace with
      | ']' :: rest => (arr [], some rest)
      | rest =>
        let (items, rest) := readItems n rest
        (arr items, rest)
    | '\x7b' :: rest =>
      match rest.dropWhile isSpace with
      | '\x7d' :: rest => (obj [], some rest)
      | rest =>
        let (fields, rest) := readFields n rest
        (obj fields, rest)
    | c :: rest => if c.isDigit then readNumber false (c :: rest) else (broken, none)
    | [] => (broken, none)

/-- The items of an array from the next on, up to its bracket. -/
def readItems : (fuel : Nat) → List Char → List Json × Rest
  | 0, _ => ([broken], none)
  | n + 1, cs =>
    match readValue n cs with
    | (item, none) => ([item], none)
    | (item, some rest) =>
      match rest.dropWhile isSpace with
      | ']' :: rest => ([item], some rest)
      | ',' :: rest =>
        let (items, rest) := readItems n rest
        (item :: items, rest)
      | _ => ([item, broken], none)

/-- The fields of an object from the next on, up to its brace. -/
def readFields : (fuel : Nat) → List Char → List (String × Json) × Rest
  | 0, _ => ([("", broken)], none)
  | n + 1, cs =>
    match readName cs with
    | none => ([("", broken)], none)
    | some (name, rest) =>
      match readValue n rest with
      | (value, none) => ([(name, value)], none)
      | (value, some rest) =>
        match rest.dropWhile isSpace with
        | '\x7d' :: rest => ([(name, value)], some rest)
        | ',' :: rest =>
          let (fields, rest) := readFields n rest
          ((name, value) :: fields, rest)
        | _ => ([(name, value), ("", broken)], none)

end

/-- The value of a text, and whether nothing but space stands behind it. -/
def ofText (s : String) : Json × Bool :=
  let cs := s.toList
  match readValue (2 * cs.length + 2) cs with
  | (j, some rest) => (j, rest.all isSpace)
  | (j, none) => (j, false)

end SwapPlan.Json

import SwapPlan.Settings.Value
import SwapPlan.Text.Blank

/-!
Reading INI documents: lines of a key and a value around an equals sign or a colon, under section
headers in brackets. All values are texts.
-/

namespace SwapPlan.Ini

/-- A part of a document, and the characters behind it. -/
abbrev Part := List Char × List Char

/-! ### Characters -/

/-- The character that four digits behind `\x` stand for. -/
def hexChar? (ds : List Char) : Option Char := (Text.numberIn? 16 ds).bind Text.char?

/-- What a character behind a backslash stands for, which is itself where it has no meaning. At
the end of a line it joins the next one. -/
def escape (c : Char) : List Char :=
  match c with
  | '0' => ['\x00']
  | 'a' => ['\x07']
  | 'b' => ['\x08']
  | 't' => ['\t']
  | 'r' => ['\r']
  | 'n' => ['\n']
  | '\n' => []
  | c => [c]

/-- The text up to a character that stops it, which stays ahead. The document may end there only
if `mayEnd` says so. -/
def textUntil (stop : Char → Bool) (mayEnd : Bool) : List Char → Option Part
  | [] => if mayEnd then some ([], []) else none
  | '\\' :: cs =>
    if stop '\\' then some ([], '\\' :: cs)
    else match cs with
      | 'x' :: a :: b :: c :: d :: rest => do
        let x ← hexChar? [a, b, c, d]
        let (text, rest) ← textUntil stop mayEnd rest
        return (x :: text, rest)
      | 'x' :: _ | [] => none
      | c :: rest => do
        let (text, rest) ← textUntil stop mayEnd rest
        return (escape c ++ text, rest)
  | c :: cs =>
    if stop c then some ([], c :: cs)
    else do
      let (text, rest) ← textUntil stop mayEnd cs
      return (c :: text, rest)

def isLineEnd (c : Char) : Bool := c = '\n' || c = '\r'

/-! ### Values -/

/-- The rest of a value. Quoted parts keep their blanks; behind them only those at the end of the
line do not count. -/
def valueFrom : (fuel : Nat) → (quoted : Bool) → List Char → Option Part
  | 0, _, _ => none
  | n + 1, quoted, cs =>
    let behindQuote (q : Char) (cs : List Char) : Option Part := do
      let (inner, rest) ← textUntil (· = q) false cs
      let (more, rest) ← valueFrom n true (rest.drop 1)
      return (inner ++ more, rest)
    match cs with
    | [] => some ([], [])
    | '"' :: cs => behindQuote '"' cs
    | '\'' :: cs => behindQuote '\'' cs
    | cs => do
      let (line, rest) ← textUntil isLineEnd true cs
      let line := if quoted then line else line.dropWhile Text.isBlank
      return ((line.reverse.dropWhile Text.isBlank).reverse, rest)

/-- The value behind an equals sign or a colon, on the same line unless it is quoted. -/
def value? (cs : List Char) : Option Part :=
  let cs := cs.dropWhile fun c => Text.isBlank c && !isLineEnd c
  valueFrom (cs.length + 1) false cs

/-! ### Documents -/

abbrev Properties := List (String × SettingValue)

/-- A document up to some place: the properties before all headers, the sections, last first, and
a key that waits for its value. -/
structure Document where
  general : Properties
  sections : List (String × Properties)
  key : List Char

namespace Document

def empty : Document := ⟨[], [], []⟩

def addSection (d : Document) (name : List Char) : Document :=
  { d with sections := (String.ofList (Text.trimChars name), []) :: d.sections }

/-- Gives the waiting key its value. -/
def addValue (d : Document) (value : List Char) : Document :=
  let p := (String.ofList d.key, SettingValue.text (String.ofList value))
  match d.sections with
  | [] => { d with general := d.general ++ [p], key := [] }
  | (name, ps) :: rest => { d with sections := (name, ps ++ [p]) :: rest, key := [] }

def fields (d : Document) : List (String × SettingValue) :=
  d.general ++ d.sections.reverse.map fun (name, ps) => (name, .table ps)

end Document

/-- Skips blanks. The flag says whether the next character begins its line. -/
def skipBlanks : (first : Bool) → List Char → Bool × List Char
  | first, [] => (first, [])
  | first, c :: cs => if Text.isBlank c then skipBlanks (c = '\n') cs else (first, c :: cs)

/-- Reads on to the end. Comments begin their lines. -/
def readFrom : (fuel : Nat) → (first : Bool) → Document → List Char → Option Document
  | 0, _, _, _ => none
  | n + 1, first, d, cs =>
    let (first, cs) := skipBlanks first cs
    match cs with
    | [] => some d
    | '[' :: cs => do
      let (name, rest) ← textUntil (· = ']') false cs
      readFrom n false (d.addSection name) (rest.drop 1)
    | c :: rest =>
      if c = ';' ∨ c = '#' then
        if first then readFrom n true d ((rest.dropWhile (· ≠ '\n')).drop 1) else none
      else if c = '=' ∨ c = ':' then
        if d.key = [] then none
        else do
          let (value, rest) ← value? rest
          readFrom n false (d.addValue value) rest
      else do
        let (key, rest) ← textUntil (fun c => c = '=' || c = ':') false (c :: rest)
        readFrom n false { d with key := Text.trimChars key } rest

/-- The fields of a document; each section is a table. -/
def ofText (s : String) : Option (List (String × SettingValue)) :=
  let cs := s.toList
  (readFrom (cs.length + 1) true .empty cs).map Document.fields

end SwapPlan.Ini

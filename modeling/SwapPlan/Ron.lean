import SwapPlan.Json.Text
import SwapPlan.Settings.Value

/-!
Reading RON documents: records with or without a name in round brackets, tables in braces, lists
and optional values.
-/

namespace SwapPlan.Ron

/-- A part of a document, and the characters behind it. -/
abbrev Part (α : Type) := α × List Char

def isSpace (c : Char) : Bool := c = ' ' || c = '\n' || c = '\t' || c = '\r'

/-! ### Space and comments -/

/-- The characters behind a comment that has been opened `depth` times. -/
def closeComment : (depth : Nat) → List Char → Option (List Char)
  | 0, cs => some cs
  | _, [] => none
  | d + 1, '*' :: '/' :: cs => closeComment d cs
  | d + 1, '/' :: '*' :: cs => closeComment (d + 2) cs
  | d + 1, _ :: cs => closeComment (d + 1) cs

/-- Skips space and comments. A comment that is not closed stays ahead. -/
def skip : (fuel : Nat) → List Char → List Char
  | 0, cs => cs
  | n + 1, cs =>
    match cs.dropWhile isSpace with
    | '/' :: '/' :: rest => skip n (rest.dropWhile (· ≠ '\n'))
    | '/' :: '*' :: rest =>
      match closeComment 1 rest with
      | some rest => skip n rest
      | none => '/' :: '*' :: rest
    | cs => cs

def skipAll (cs : List Char) : List Char := skip (cs.length + 1) cs

/-! ### Names, texts and numbers -/

def isNameStart (c : Char) : Bool := c.isAlpha || c = '_'

def isNameChar (c : Char) : Bool := c.isAlphanum || c = '_'

/-- The name ahead. -/
def name? (cs : List Char) : Option (Part (List Char)) :=
  match cs with
  | 'r' :: '"' :: _ => none
  | 'r' :: '#' :: rest =>
    let raw (c : Char) : Bool := isNameChar c || c ∈ ['.', '+', '-']
    if rest.head?.any raw then some (rest.takeWhile raw, rest.dropWhile raw) else none
  | c :: _ =>
    if isNameStart c then some (cs.takeWhile isNameChar, cs.dropWhile isNameChar) else none
  | [] => none

/-- The character of an escape behind its backslash. -/
def escape? : List Char → Option (Part Char)
  | '\'' :: cs => some ('\'', cs)
  | '"' :: cs => some ('"', cs)
  | '\\' :: cs => some ('\\', cs)
  | 'n' :: cs => some ('\n', cs)
  | 'r' :: cs => some ('\r', cs)
  | 't' :: cs => some ('\t', cs)
  | '0' :: cs => some ('\x00', cs)
  | 'x' :: a :: b :: cs => do return (← (← Text.numberIn? 16 [a, b]) |> Text.char?, cs)
  | 'u' :: '\x7b' :: cs => do
    let ds := cs.takeWhile (· ≠ '\x7d')
    if ds = [] ∨ ds.length > 6 then none
    else return (← (← Text.numberIn? 16 ds) |> Text.char?, (cs.dropWhile (· ≠ '\x7d')).drop 1)
  | _ => none

/-- The characters of a text up to its closing quote. -/
def quoted : (fuel : Nat) → List Char → Option (Part (List Char))
  | 0, _ | _, [] => none
  | _, '"' :: cs => some ([], cs)
  | n + 1, '\\' :: cs => do
    let (c, rest) ← escape? cs
    let (text, rest) ← quoted n rest
    return (c :: text, rest)
  | n + 1, c :: cs => do
    let (text, rest) ← quoted n cs
    return (c :: text, rest)

/-- The characters of a text without escapes, up to a quote and as many signs as opened it. -/
def raw (signs : Nat) : List Char → Option (Part (List Char))
  | [] => none
  | c :: cs =>
    if c = '"' ∧ cs.take signs = List.replicate signs '#' then some ([], cs.drop signs)
    else do
      let (text, rest) ← raw signs cs
      return (c :: text, rest)

def text? (cs : List Char) : Option (Part (List Char)) :=
  match cs with
  | '"' :: cs => quoted (cs.length + 1) cs
  | 'r' :: cs =>
    let signs := (cs.takeWhile (· = '#')).length
    match cs.drop signs with
    | '"' :: cs => raw signs cs
    | _ => none
  | '\'' :: '\\' :: cs => do
    match ← escape? cs with
    | (c, '\'' :: rest) => return ([c], rest)
    | _ => none
  | '\'' :: c :: '\'' :: cs => if c = '\'' then none else some ([c], cs)
  | _ => none

/-- The characters of a number behind its sign. A sign may stand behind the mark of an exponent. -/
def numberChars : (behindMark : Bool) → List Char → Part (List Char)
  | _, [] => ([], [])
  | behindMark, c :: cs =>
    if c.isAlphanum || c ∈ ['_', '.'] || (behindMark && c ∈ ['+', '-']) then
      let (ds, rest) := numberChars (Text.isExponentMark c) cs
      (c :: ds, rest)
    else ([], c :: cs)

/-- The size of a whole number, behind the mark of its base. -/
def whole? (ds : List Char) : Option Nat :=
  let plain (base : Nat) (ds : List Char) : Option Nat :=
    if ds.head?.all (· = '_') then none else Text.numberIn? base (ds.filter (· ≠ '_'))
  match ds with
  | '0' :: 'x' :: ds => plain 16 ds
  | '0' :: 'o' :: ds => plain 8 ds
  | '0' :: 'b' :: ds => plain 2 ds
  | ds => plain 10 ds

/-- A number is whole if 64 bits with a sign hold it, else a double. -/
def number? (cs : List Char) : Option (Part SettingValue) := do
  let (negative, size) := Text.unsign cs
  let (ds, rest) := numberChars false size
  let value : Option Int := (whole? ds).map fun n => if negative then -n else n
  let fits := value.any fun i => Int64.minValue.toInt ≤ i && i ≤ Int64.maxValue.toInt
  match value, fits with
  | some i, true => return (.int i, rest)
  | some i, false => return (.float (Decimal.toFloat ⟨negative, i.natAbs, 0⟩), rest)
  | none, _ =>
    if !(ds.head?.any fun c => c.isDigit || c = '.') then none
    else
      let x ← Text.float? (String.ofList (ds.filter (· ≠ '_')))
      return (.float (if negative then -x else x), rest)

/-! ### Values -/

/-- Items up to a closing character, with commas between them and maybe behind the last. -/
def items {α : Type} (closing : Char) (item : List Char → Option (Part α)) :
    (fuel : Nat) → List Char → Option (Part (List α))
  | 0, _ => none
  | n + 1, cs =>
    match skipAll cs with
    | [] => none
    | c :: cs =>
      if c = closing then some ([], cs)
      else do
        let (a, cs) ← item (c :: cs)
        match skipAll cs with
        | ',' :: cs =>
          let (as, rest) ← items closing item n cs
          return (a :: as, rest)
        | d :: rest => if d = closing then return ([a], rest) else none
        | [] => none

def allItems {α : Type} (closing : Char) (item : List Char → Option (Part α)) (cs : List Char) :
    Option (Part (List α)) :=
  items closing item (cs.length + 1) cs

/-- A value behind a colon. -/
def behindColon (value : List Char → Option (Part SettingValue)) (cs : List Char) :
    Option (Part SettingValue) :=
  match skipAll cs with
  | ':' :: cs => value (skipAll cs)
  | _ => none

/-- The fields of a record, whose names are bare, or its items if it has no names. -/
def record (value : List Char → Option (Part SettingValue)) (cs : List Char) :
    Option (Part SettingValue) :=
  let named : Bool := match name? (skipAll cs) with
    | some (_, rest) => (skipAll rest).head? = some ':'
    | none => false
  if named then
    let field (cs : List Char) : Option (Part (String × SettingValue)) := do
      let (name, cs) ← name? cs
      let (v, rest) ← behindColon value cs
      return ((String.ofList name, v), rest)
    (allItems ')' field cs).map fun (fs, rest) => (.table fs, rest)
  else (allItems ')' value cs).map fun (vs, rest) => (.list vs, rest)

/-- A field of a table, whose name is a text. -/
def entry (value : List Char → Option (Part SettingValue)) (cs : List Char) :
    Option (Part (String × SettingValue)) := do
  match ← value cs with
  | (.text name, cs) =>
    let (v, rest) ← behindColon value cs
    return ((name, v), rest)
  | _ => none

/-- The value ahead, with fewer than `depth` values around each one in it. -/
def value : (depth : Nat) → List Char → Option (Part SettingValue)
  | 0, _ => none
  | n + 1, cs =>
    match name? cs, cs with
    | some (name, rest), _ =>
      if name = "true".toList then some (.bool true, rest)
      else if name = "false".toList then some (.bool false, rest)
      else if name = "None".toList then some (.null, rest)
      else if name = "inf".toList then some (.float (1.0 / 0.0), rest)
      else if name = "NaN".toList then some (.float (0.0 / 0.0), rest)
      else match skipAll rest with
        | '(' :: cs =>
          if name = "Some".toList then
            match allItems ')' (fun cs => value n cs) cs with
            | some ([v], rest) => some (v, rest)
            | _ => none
          else record (fun cs => value n cs) cs
        | _ => if name = "Some".toList then none else some (.null, rest)
    | none, '(' :: ')' :: rest => some (.null, rest)
    | none, '(' :: cs => record (fun cs => value n cs) cs
    | none, '[' :: cs =>
      (allItems ']' (fun cs => value n cs) cs).map fun (vs, rest) => (.list vs, rest)
    | none, '\x7b' :: cs =>
      (allItems '\x7d' (fun cs => entry (fun cs => value n cs) cs) cs).map
        fun (fs, rest) => (.table fs, rest)
    | none, '-' :: 'i' :: 'n' :: 'f' :: rest =>
      if rest.head?.any isNameChar then none else some (.float (-1.0 / 0.0), rest)
    | none, cs =>
      if cs.head?.any fun c => c.isDigit || c ∈ ['+', '-', '.'] then number? cs
      else (text? cs).map fun (t, rest) => (.text (String.ofList t), rest)

/-- Passes words, and the space behind each. -/
def behindAll? : List String → List Char → Option (List Char)
  | [], cs => some cs
  | word :: words, cs => do behindAll? words (skipAll (← Json.behind? word.toList cs))

/-- The extensions that a document may ask for. They do not change what it means here. -/
def extensions : List String := ["unwrap_newtypes", "implicit_some", "unwrap_variant_newtypes"]

/-- Passes what a document asks for in front of its value. -/
def skipExtensions? : (fuel : Nat) → List Char → Option (List Char)
  | 0, cs => some cs
  | n + 1, cs =>
    match cs with
    | '#' :: _ => do
      let cs ← behindAll? ["#", "!", "[", "enable", "("] cs
      let (names, cs) ← allItems ')' name? cs
      if names = [] ∨ names.any fun name => String.ofList name ∉ extensions then none
      else skipExtensions? n (← behindAll? ["]"] (skipAll cs))
    | cs => some cs

/-- Values nest at most 128 deep. -/
def mostDepth : Nat := 128

/-- The fields of a document, which is a record or a table. -/
def ofText (s : String) : Option (List (String × SettingValue)) := do
  let cs ← skipExtensions? s.length (skipAll s.toList)
  match ← value (mostDepth + 1) cs with
  | (.table fs, rest) => if skipAll rest = [] then return fs else none
  | _ => none

end SwapPlan.Ron

import SwapPlan.Toml.Scalar
import SwapPlan.Toml.Table

/-!
Reading TOML documents. Every part of the reader takes the characters ahead and gives what it
has read together with the characters behind it.
-/

namespace SwapPlan.Toml

def isSpace (c : Char) : Bool := c = ' ' ∨ c = '\t'

/-- A character that may stand in comments and strings. -/
def isShown (c : Char) : Bool := c = '\t' ∨ (0x20 ≤ c.toNat ∧ c.toNat ≠ 0x7f)

def skipSpace (cs : List Char) : List Char := cs.dropWhile isSpace

/-- The characters behind the end of a line. -/
def newline? : List Char → Option (List Char)
  | [] => some []
  | '\n' :: cs => some cs
  | '\r' :: '\n' :: cs => some cs
  | _ => none

/-- The next line, if only space and a comment are left of this one. -/
def nextLine? (cs : List Char) : Option (List Char) :=
  match skipSpace cs with
  | '#' :: cs => newline? (cs.dropWhile isShown)
  | cs => newline? cs

/-- Skips space, ends of lines and comments. -/
def skipBlank : (comment : Bool) → List Char → List Char
  | _, [] => []
  | _, '\n' :: cs => skipBlank false cs
  | _, '\r' :: '\n' :: cs => skipBlank false cs
  | comment, c :: cs =>
    if (comment && isShown c) || c = '#' then skipBlank true cs
    else if isSpace c then skipBlank false cs
    else c :: cs

/-! ### Strings and keys -/

/-- The character that hexadecimal digits stand for. -/
def hexChar? (digits : List Char) : Option Char :=
  (Text.numberIn? 16 digits).bind Text.char?

def escape? : Char → Option Char
  | 'b' => some '\x08'
  | 't' => some '\t'
  | 'n' => some '\n'
  | 'f' => some '\x0c'
  | 'r' => some '\r'
  | '"' => some '"'
  | '\\' => some '\\'
  | _ => none

/-- Up to two quotes behind three closing ones belong to the string. -/
def closing (quote : Char) (cs : List Char) : List Char × List Char :=
  let extra := (cs.take 2).takeWhile (· = quote)
  (extra, cs.drop extra.length)

/-- The line ends here, up to space. -/
def lineEnds (cs : List Char) : Bool :=
  match skipSpace cs with
  | '\n' :: _ => true
  | '\r' :: '\n' :: _ => true
  | _ => false

def consFst (c : Char) (r : List Char × List Char) : List Char × List Char := (c :: r.1, r.2)

/-- A string with escapes, behind its opening quotes. Over several lines, a backslash at the end
of a line skips all space and line ends from there on, which is what `skipping` does. -/
def basicString (lines : Bool) : (skipping : Bool) → List Char → Option (List Char × List Char)
  | _, [] => none
  | _, '"' :: cs =>
    if !lines then some ([], cs)
    else match cs with
      | '"' :: '"' :: rest => some (closing '"' rest)
      | _ => (basicString lines false cs).map (consFst '"')
  | _, '\\' :: 'u' :: a :: b :: c :: d :: cs => do
    let x ← hexChar? [a, b, c, d]
    (basicString lines false cs).map (consFst x)
  | _, '\\' :: 'U' :: a :: b :: c :: d :: e :: f :: g :: h :: cs => do
    let x ← hexChar? [a, b, c, d, e, f, g, h]
    (basicString lines false cs).map (consFst x)
  | _, '\\' :: c :: cs =>
    if lines && lineEnds (c :: cs) then basicString lines true (c :: cs)
    else do
      let x ← escape? c
      (basicString lines false cs).map (consFst x)
  | skipping, '\r' :: '\n' :: cs =>
    if !lines then none
    else if skipping then basicString lines true cs
    else (basicString lines false cs).map (consFst '\n')
  | skipping, c :: cs =>
    if c = '\n' then
      if !lines then none
      else if skipping then basicString lines true cs
      else (basicString lines false cs).map (consFst '\n')
    else if skipping && isSpace c then basicString lines true cs
    else if isShown c && c ≠ '\\' then (basicString lines false cs).map (consFst c)
    else none

/-- A string without escapes, behind its opening quotes. -/
def literalString (lines : Bool) : List Char → Option (List Char × List Char)
  | [] => none
  | '\'' :: cs =>
    if !lines then some ([], cs)
    else match cs with
      | '\'' :: '\'' :: rest => some (closing '\'' rest)
      | _ => (literalString lines cs).map (consFst '\'')
  | '\r' :: '\n' :: cs =>
    if lines then (literalString lines cs).map (consFst '\n') else none
  | c :: cs =>
    if isShown c || (lines && c = '\n') then (literalString lines cs).map (consFst c) else none

/-- A line end right behind three opening quotes does not count. -/
def dropNewline : List Char → List Char
  | '\n' :: cs => cs
  | '\r' :: '\n' :: cs => cs
  | cs => cs

def isBare (c : Char) : Bool := c.isAlphanum || c = '_' || c = '-'

/-- One part of a key, bare or in single quotes of either kind. -/
def keyPart : List Char → Option (List Char × List Char)
  | '"' :: cs => basicString false false cs
  | '\'' :: cs => literalString false cs
  | cs =>
    let bare := cs.takeWhile isBare
    if bare = [] then none else some (bare, cs.dropWhile isBare)

/-- The parts of a key, which dots separate. -/
def keyParts : (most : Nat) → List Char → Option (List String × List Char)
  | 0, _ => none
  | n + 1, cs => do
    let (part, cs) ← keyPart (skipSpace cs)
    match skipSpace cs with
    | '.' :: cs =>
      let (parts, cs) ← keyParts n cs
      return (String.ofList part :: parts, cs)
    | cs => return ([String.ofList part], cs)

/-- The parts of a key before its last, and its last. -/
def key (cs : List Char) : Option ((List String × String) × List Char) := do
  let (parts, cs) ← keyParts 79 cs
  return ((parts.dropLast, ← parts.getLast?), cs)

/-! ### Values -/

def isWordChar (c : Char) : Bool := c.isAlphanum || c ∈ ['_', '+', '-', '.', ':']

/-- A word without quotes. A date may have its time behind a space. -/
def word (cs : List Char) : List Char × List Char :=
  let w := cs.takeWhile isWordChar
  let rest := cs.dropWhile isWordChar
  match rest with
  | ' ' :: a :: b :: ':' :: _ =>
    if (date? w).isSome && a.isDigit && b.isDigit then
      (w ++ 'T' :: (rest.drop 1).takeWhile isWordChar, (rest.drop 1).dropWhile isWordChar)
    else (w, rest)
  | _ => (w, rest)

/-- The items of an array, behind its bracket. The last may have a comma behind it. -/
def arrayItems {α : Type} (item : List Char → Option (α × List Char)) :
    (fuel : Nat) → List Char → Option (List α × List Char)
  | 0, _ => none
  | n + 1, cs =>
    match skipBlank false cs with
    | ']' :: cs => some ([], cs)
    | cs => do
      let (a, cs) ← item cs
      match skipBlank false cs with
      | ']' :: cs => return ([a], cs)
      | ',' :: cs =>
        let (as, cs) ← arrayItems item n cs
        return (a :: as, cs)
      | _ => none

/-- The fields of a table in braces, from the next on. -/
def bracedItems {α : Type} (item : List Char → Option (α × List Char)) :
    (fuel : Nat) → List Char → Option (List α × List Char)
  | 0, _ => none
  | n + 1, cs => do
    let (a, cs) ← item cs
    match skipSpace cs with
    | '\x7d' :: cs => return ([a], cs)
    | ',' :: cs =>
      let (as, cs) ← bracedItems item n cs
      return (a :: as, cs)
    | _ => none

/-- A key and its value. -/
def keyValue (value : List Char → Option (SettingValue × List Char)) (cs : List Char) :
    Option ((List String × String × SettingValue) × List Char) := do
  let ((path, key), cs) ← key cs
  match cs with
  | '=' :: cs =>
    let (v, cs) ← value (skipSpace cs)
    return ((path, key, v), cs)
  | _ => none

/-- The table that fields in braces spell. -/
def braced (fields : List (List String × String × SettingValue)) : Option SettingValue := do
  let fs ← fields.foldlM (fun (fs : Fields) (path, key, v) => fs.insert key v path) []
  return .table (fieldValues fs)

/-- The value ahead, with at most `depth` arrays and tables around each other. -/
def value : (depth : Nat) → List Char → Option (SettingValue × List Char)
  | _, '"' :: '"' :: '"' :: cs => do
    let (s, cs) ← basicString true false (dropNewline cs)
    return (.text (String.ofList s), cs)
  | _, '\'' :: '\'' :: '\'' :: cs => do
    let (s, cs) ← literalString true (dropNewline cs)
    return (.text (String.ofList s), cs)
  | _, '"' :: cs => do
    let (s, cs) ← basicString false false cs
    return (.text (String.ofList s), cs)
  | _, '\'' :: cs => do
    let (s, cs) ← literalString false cs
    return (.text (String.ofList s), cs)
  | 0, '[' :: _ | 0, '\x7b' :: _ => none
  | depth + 1, '[' :: cs => do
    let (items, cs) ← arrayItems (value depth) (cs.length + 1) cs
    return (.list items, cs)
  | depth + 1, '\x7b' :: cs =>
    match skipSpace cs with
    | '\x7d' :: cs => some (.table [], cs)
    | cs => do
      let (fields, cs) ← bracedItems (keyValue (value depth)) (cs.length + 1) cs
      return (← braced fields, cs)
  | _, cs => do
    let (w, cs) := word cs
    return (← scalar? w, cs)

/-! ### Documents -/

/-- The header whose brackets have been opened, up to the line behind it. -/
def header (closing : List Char) (cs : List Char) :
    Option ((List String × String) × List Char) := do
  let (k, cs) ← key cs
  if cs.take closing.length = closing then
    return (k, ← nextLine? (cs.drop closing.length))
  else none

/-- Reads headers and fields up to the end. -/
def readLines : (fuel : Nat) → Document → List Char → Option Document
  | 0, _, _ => none
  | n + 1, d, cs =>
    match skipBlank false cs with
    | [] => some d
    | '[' :: '[' :: cs => do
      let ((path, key), cs) ← header [']', ']'] cs
      readLines n (← d.openItem path key) cs
    | '[' :: cs => do
      let ((path, key), cs) ← header [']'] cs
      readLines n (← d.openTable path key) cs
    | cs => do
      let ((path, key, v), cs) ← keyValue (value 79) cs
      readLines n (← d.insert path key v) (← nextLine? cs)

/-- The fields of a document, behind a byte order mark if there is one. -/
def ofText (s : String) : Option (List (String × SettingValue)) := do
  let cs := match s.toList with
    | '\ufeff' :: cs => cs
    | cs => cs
  (← readLines (cs.length + 1) .empty cs).finish

end SwapPlan.Toml

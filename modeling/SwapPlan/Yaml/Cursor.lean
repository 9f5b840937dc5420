/-!
Places in a YAML document, where columns count, and what may stand between its parts: blanks,
comments and line ends.
-/

namespace SwapPlan.Yaml

def isBlank (c : Char) : Bool := c = ' ' || c = '\t'

def isBreak (c : Char) : Bool := c = '\n' || c = '\r'

def isSpace (c : Char) : Bool := isBlank c || isBreak c

/-- The marks of collections in brackets and braces. -/
def isFlow (c : Char) : Bool := c ∈ [',', '[', ']', '\x7b', '\x7d']

/-- A place: the characters ahead, the line and column of the first one, and whether nothing but
blanks stands before it in its line. -/
structure Cursor where
  rest : List Char
  line : Nat
  column : Nat
  leading : Bool

namespace Cursor

def start (cs : List Char) : Cursor := ⟨cs, 0, 0, true⟩

/-- Passes a character within its line. -/
def skip (c : Cursor) : Cursor :=
  match c.rest with
  | [] => c
  | a :: rest => ⟨rest, c.line, c.column + 1, c.leading && isBlank a⟩

def skipMany : Nat → Cursor → Cursor
  | 0, c => c
  | n + 1, c => skipMany n c.skip

/-- Passes the end of a line. -/
def skipBreak (c : Cursor) : Cursor :=
  match c.rest with
  | '\r' :: '\n' :: rest | '\n' :: rest | '\r' :: rest => ⟨rest, c.line + 1, 0, true⟩
  | _ => c

/-- Passes all that is left of the line. -/
def skipLine (c : Cursor) : Cursor :=
  c.skipMany (c.rest.takeWhile fun a => !isBreak a).length

/-- The end of a line or of the document is ahead. -/
def atLineEnd (c : Cursor) : Bool := c.rest.head?.all isBreak

/-- The sign of a mark between documents: three dashes or points that begin a line. -/
def marker? (c : Cursor) : Option Char :=
  match c.rest with
  | x :: y :: z :: rest =>
    if c.column = 0 ∧ x = y ∧ y = z ∧ (x = '-' ∨ x = '.') ∧ rest.head?.all isSpace then some x
    else none
  | _ => none

/-- The blanks ahead. -/
def blanks (c : Cursor) : List Char := c.rest.takeWhile isBlank

/-- Passes the blanks ahead and a comment behind them. Without a blank before it, there is no
comment. -/
def skipBlanks? (c : Cursor) : Option Cursor :=
  let behind := c.skipMany c.blanks.length
  match behind.rest with
  | '#' :: _ => if c.blanks = [] then none else some behind.skipLine
  | _ => some behind

/-- Passes blanks, comments and line ends, and says whether there were line ends. In a block, a
tab may stand left of `indent` only if nothing follows in its line. -/
def skipSpace? (block : Bool) (indent : Int) : (fuel : Nat) → Cursor → Option (Bool × Cursor)
  | 0, _ => none
  | n + 1, c =>
    match c.rest with
    | [] => some (false, c)
    | a :: _ =>
      if isBreak a then (skipSpace? block indent n c.skipBreak).map fun (_, c) => (true, c)
      else if a = '#' then skipSpace? block indent n c.skipLine
      else if a = '\t' ∧ block ∧ c.leading ∧ c.column < indent then do
        let behind ← c.skipBlanks?
        if behind.atLineEnd then skipSpace? block indent n behind else none
      else if isBlank a then skipSpace? block indent n c.skip
      else some (false, c)

end Cursor

end SwapPlan.Yaml

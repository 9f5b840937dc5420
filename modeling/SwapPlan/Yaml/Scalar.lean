import SwapPlan.Text.Number
import SwapPlan.Yaml.Cursor

/-!
The three forms of scalars in YAML: plain, in quotes, and as a block of lines. Lines of the first
two fold: a single line end between them counts as a space.
-/

namespace SwapPlan.Yaml

/-- A part of a scalar, and the place behind it. -/
abbrev Part (α : Type) := α × Cursor

/-! ### Folding -/

/-- What stands between two texts, for the blanks before the first line end and the number of line
ends between them. -/
def folded (blanks : List Char) : (breaks : Nat) → List Char
  | 0 => blanks
  | 1 => [' ']
  | n + 2 => List.replicate (n + 1) '\n'

/-- The blanks before the first line end ahead, and the number of line ends. Behind a line end, a
tab left of `indent` is refused, except in a line without a text if `mayTab` says so. -/
def gap (mayTab : Bool) (indent : Int) :
    (fuel : Nat) → (behindBreak : Bool) → Cursor → Option (Part (List Char × Nat))
  | 0, _, _ => none
  | n + 1, behindBreak, c =>
    match c.rest with
    | [] => some (([], 0), c)
    | a :: _ =>
      if isBreak a then do
        let ((_, breaks), c) ← gap mayTab indent n true c.skipBreak
        return (([], breaks + 1), c)
      else if !isBlank a then some (([], 0), c)
      else if !behindBreak then do
        let ((blanks, breaks), c) ← gap mayTab indent n false c.skip
        return ((a :: blanks, breaks), c)
      else if a = '\t' ∧ c.column < indent then do
        let behind ← if mayTab then c.skipBlanks? else none
        if behind.atLineEnd then gap mayTab indent n true behind else none
      else gap mayTab indent n true c.skip

/-! ### Plain scalars -/

/-- Whether the next character belongs to a plain scalar. -/
def isPlain (inFlow : Bool) : List Char → Bool
  | [] => false
  | a :: rest =>
    !(isSpace a || (inFlow && isFlow a) ||
      (a = ':' && (rest.head?.all isSpace || (inFlow && rest.head?.any isFlow))))

/-- How many characters ahead belong to a plain scalar. -/
def plainLength (inFlow : Bool) : List Char → Nat
  | [] => 0
  | a :: rest => if isPlain inFlow (a :: rest) then plainLength inFlow rest + 1 else 0

/-- A plain scalar from a text in it on. Its lines stand at `indent` or right of it. -/
def plain? (inFlow : Bool) (indent : Int) : (fuel : Nat) → Cursor → Option (Part (List Char))
  | 0, _ => none
  | n + 1, c =>
    if c.marker?.isSome ∨ c.rest.head? = some '#' then some ([], c)
    else if inFlow ∧ c.rest.head? = some '-' ∧ (c.rest.drop 1).head?.any isFlow then none
    else
      let text := c.rest.take (plainLength inFlow c.rest)
      let c := c.skipMany text.length
      if !c.rest.head?.any isSpace then some (text, c)
      else do
        let ((blanks, breaks), c) ← gap true indent (c.rest.length + 1) false c
        if !inFlow ∧ c.column < indent then return (text, c)
        else
          let (more, c) ← plain? inFlow indent n c
          return (text ++ (if more = [] then [] else folded blanks breaks ++ more), c)

/-! ### Quoted scalars -/

/-- The character that an escape stands for, from behind its backslash, and its length. -/
def escape? (cs : List Char) : Option (Char × Nat) :=
  let code (digits : Nat) (cs : List Char) : Option (Char × Nat) :=
    if cs.length < digits then none
    else do return (← (← Text.numberIn? 16 (cs.take digits)) |> Text.char?, digits + 1)
  match cs with
  | '0' :: _ => some ('\x00', 1)
  | 'a' :: _ => some ('\x07', 1)
  | 'b' :: _ => some ('\x08', 1)
  | 't' :: _ | '\t' :: _ => some ('\t', 1)
  | 'n' :: _ => some ('\n', 1)
  | 'v' :: _ => some ('\x0b', 1)
  | 'f' :: _ => some ('\x0c', 1)
  | 'r' :: _ => some ('\r', 1)
  | 'e' :: _ => some ('\x1b', 1)
  | ' ' :: _ => some (' ', 1)
  | '"' :: _ => some ('"', 1)
  | '/' :: _ => some ('/', 1)
  | '\\' :: _ => some ('\\', 1)
  | 'N' :: _ => some ('\x85', 1)
  | '_' :: _ => some ('\xa0', 1)
  | 'L' :: _ => some ('\u2028', 1)
  | 'P' :: _ => some ('\u2029', 1)
  | 'x' :: cs => code 2 cs
  | 'u' :: cs => code 4 cs
  | 'U' :: cs => code 8 cs
  | _ => none

/-- The characters up to a space, the closing quote or a line end behind a backslash, and whether
it is that one. -/
def quotedText (quote : Char) : (fuel : Nat) → Cursor → Option (Part (List Char × Bool))
  | 0, _ => none
  | n + 1, c =>
    let go (a : Char) (c : Cursor) : Option (Part (List Char × Bool)) := do
      let ((text, escaped), c) ← quotedText quote n c
      return ((a :: text, escaped), c)
    match c.rest with
    | [] => some (([], false), c)
    | a :: rest =>
      if isSpace a then some (([], false), c)
      else if a = quote then
        if quote = '\'' ∧ rest.head? = some '\'' then go a (c.skipMany 2) else some (([], false), c)
      else if quote = '"' ∧ a = '\\' then
        if rest.head?.any isBreak then some (([], true), c.skip.skipBreak)
        else do
          let (e, length) ← escape? rest
          go e (c.skipMany (length + 1))
      else go a c.skip

/-- A quoted scalar from a text in it up to its closing quote. -/
def quoted? (quote : Char) (indent : Int) : (fuel : Nat) → Cursor → Option (Part (List Char))
  | 0, _ => none
  | n + 1, c =>
    if c.marker?.isSome ∨ c.column < indent then none
    else do
      let ((text, escaped), c) ← quotedText quote (c.rest.length + 1) c
      match c.rest with
      | [] => none
      | a :: _ =>
        if a = quote then return (text, c.skip)
        else
          let ((blanks, breaks), c) ← gap false indent (c.rest.length + 1) escaped c
          let between := if escaped then List.replicate breaks '\n' else folded blanks breaks
          let (more, c) ← quoted? quote indent n c
          return (text ++ between ++ more, c)

/-! ### Blocks -/

/-- What is kept of the line ends behind the last text of a block. -/
inductive Chomping
  | strip | clip | keep
deriving DecidableEq

def chomping? : Char → Option Chomping
  | '-' => some .strip
  | '+' => some .keep
  | _ => none

/-- What is written behind the sign of a block: what is kept, how far its lines are indented, zero
if that is left open, and the length of both. -/
def header? (cs : List Char) : Option (Chomping × Nat × Nat) :=
  let a := cs.getD 0 '\n'
  let b := cs.getD 1 '\n'
  let size (d : Char) : Nat := d.toNat - 48
  match chomping? a, chomping? b with
  | some k, _ =>
    if !b.isDigit then some (k, 0, 1)
    else if b = '0' then none
    else some (k, size b, 2)
  | none, k =>
    if !a.isDigit then some (.clip, 0, 0)
    else if a = '0' then none
    else match k with
      | some k => some (k, size a, 2)
      | none => some (.clip, size a, 1)

/-- Passes empty lines and the indentation of the next line, and counts the line ends. -/
def skipIndent (indent : Nat) : (fuel : Nat) → Cursor → Part Nat
  | 0, c => (0, c)
  | n + 1, c =>
    let c := c.skipMany (min (c.rest.takeWhile (· = ' ')).length (indent - c.column))
    if c.rest.head?.any isBreak then
      let (breaks, c) := skipIndent indent n c.skipBreak
      (breaks + 1, c)
    else (0, c)

/-- The same for the first line, where the column of the deepest line so far is the indentation. -/
def findIndent (deepest : Nat) : (fuel : Nat) → Cursor → Part (Nat × Nat)
  | 0, c => ((deepest, 0), c)
  | n + 1, c =>
    let c := c.skipMany (c.rest.takeWhile (· = ' ')).length
    let deepest := max deepest c.column
    if c.rest.head?.any isBreak then
      let ((deepest, breaks), c) := findIndent deepest n c.skipBreak
      ((deepest, breaks + 1), c)
    else ((deepest, 0), c)

/-- Lines of a block that have been read: their text, whether a line end follows it, and the
number of empty lines behind that. -/
structure Lines where
  text : List Char
  broken : Bool
  empty : Nat

/-- Reads lines on. In a folded block, the end of a line that begins with a blank, or that comes
before such a line, is kept. -/
def blockLines (literal : Bool) (indent : Nat) :
    (fuel : Nat) → (blankLine : Bool) → Lines → Cursor → Part Lines
  | 0, _, ls, c => (ls, c)
  | n + 1, blankLine, ls, c =>
    if c.column ≠ indent ∨ c.rest = [] then (ls, c)
    else
      let blank := c.rest.head?.any isBlank
      let breaks := List.replicate ls.empty '\n'
      let between :=
        if !literal && ls.broken && !blankLine && !blank then if ls.empty = 0 then [' '] else breaks
        else (if ls.broken then ['\n'] else []) ++ breaks
      let line := c.rest.takeWhile fun a => !isBreak a
      let text := ls.text ++ between ++ line
      let c := c.skipLine
      if c.rest = [] then (⟨text, false, 0⟩, c)
      else
        let (empty, c) := skipIndent indent (c.rest.length + 1) c.skipBreak
        blockLines literal indent n blank ⟨text, true, empty⟩ c

/-- A block from behind its sign on, in a collection that stands at `outer`. -/
def block? (literal : Bool) (outer : Int) (c : Cursor) : Option (Part (List Char)) := do
  let line := c.line
  let (chomping, width, length) ← header? c.rest
  let c ← (c.skipMany length).skipBlanks?
  if !c.atLineEnd then none
  else
    let c := c.skipBreak
    if c.rest.head? = some '\t' then none
    else
      let fuel := c.rest.length + 1
      let ((indent, empty), c) :=
        if width > 0 then
          let indent := if outer ≥ 0 then outer.toNat + width else width
          let (empty, c) := skipIndent indent fuel c
          ((indent, empty), c)
        else
          let ((deepest, empty), c) := findIndent 0 fuel c
          ((max deepest (outer + 1).toNat, empty), c)
      if c.rest = [] then
        if chomping = .strip ∨ c.line = line then return ([], c)
        else if chomping = .keep ∧ empty > 0 then return (List.replicate empty '\n', c)
        else return (['\n'], c)
      else if c.column < indent ∧ outer < c.column then none
      else
        let (ls, c) := blockLines literal indent fuel false ⟨[], false, empty⟩ c
        let ending (broken : Bool) : List Char := if broken then ['\n'] else []
        let last := c.rest = [] ∧ max indent 1 ≤ c.column
        return (ls.text
          ++ (if chomping = .strip then [] else ending ls.broken ++ ending last)
          ++ (if chomping = .keep then List.replicate ls.empty '\n' else []), c)

end SwapPlan.Yaml

import SwapPlan.Text.Alphanumeric
import SwapPlan.Text.Blank

/-!
Files of environment variables. A line gives a variable a value, which may be quoted and then
run over several lines, and which may name variables that have a value by then. What is set
already stays; the first line that does not follow the form ends the file.
-/

namespace SwapPlan.EnvFile

abbrev Variables := List (String × String)

/-- The value of a variable, empty if it has none. -/
def valueOf (vs : Variables) (name : String) : String :=
  ((vs.find? fun v => v.1 = name).map Prod.snd).getD ""

/-! ### Lines -/

/-- What a scan for the end of a value stands in. -/
inductive Scan
  | plain | space | escape | strong | strongEscape | weak | weakEscape | comment
deriving DecidableEq

def Scan.step (s : Scan) (c : Char) : Scan :=
  let outside : Scan :=
    if c = '\\' then escape else if c = '"' then weak else if c = '\'' then strong else plain
  match s with
  | plain => if Text.isBlank c ∧ c ≠ '\n' ∧ c ≠ '\r' then space else outside
  | space => if c = '#' then comment else outside
  | escape => plain
  | strong => if c = '\\' then strongEscape else if c = '\'' then plain else strong
  | strongEscape => strong
  | weak => if c = '\\' then weakEscape else if c = '"' then plain else weak
  | weakEscape => weak
  | comment => comment

/-- Where a scan ends, and the characters before a comment. -/
def scan : Scan → List Char → Scan × List Char
  | s, [] => (s, [])
  | s, c :: cs =>
    if s.step c = .comment then (.comment, [])
    else
      let (t, kept) := scan (s.step c) cs
      (t, c :: kept)

/-- The lines of a text, each with its end. -/
def rawLines : List Char → List (List Char)
  | [] => []
  | c :: cs =>
    if c = '\n' then [c] :: rawLines cs
    else match rawLines cs with
      | l :: ls => (c :: l) :: ls
      | [] => [[c]]

def dropEnd (cs : List Char) : List Char :=
  match cs.reverse with
  | '\n' :: '\r' :: rest => rest.reverse
  | '\n' :: rest => rest.reverse
  | _ => cs

/-- Joins the lines that a value runs over. Nothing stands for a value that is left open. -/
def joinLines : (buffer : List Char) → Scan → List (List Char) → List (Option (List Char))
  | _, s, [] => if s = .plain then [] else [none]
  | buffer, s, line :: lines =>
    let whole := buffer ++ line
    if (whole.dropWhile Text.isBlank).head? = some '#' then joinLines [] .plain lines
    else match scan s line with
      | (.plain, _) => some (dropEnd whole) :: joinLines [] .plain lines
      | (.comment, kept) => some (buffer ++ kept) :: joinLines [] .plain lines
      | (t, _) => joinLines whole t lines

/-! ### Values -/

/-- A variable that is being named inside a value. -/
inductive Naming
  | none
  /-- Behind a dollar sign, up to the first character that no name holds. -/
  | bare (name : List Char)
  /-- Between braces. -/
  | braced (name : List Char)

structure Progress where
  strong : Bool
  weak : Bool
  escaped : Bool
  ending : Bool
  naming : Naming
  out : List Char

namespace Progress

def start : Progress := ⟨false, false, false, false, .none, []⟩

def emit (p : Progress) (cs : List Char) : Progress := { p with out := p.out ++ cs }

def named (p : Progress) (vs : Variables) (name : List Char) : Progress :=
  { p with naming := .none }.emit (valueOf vs (String.ofList name)).toList

end Progress

def escape? (c : Char) : Option Char :=
  if c ∈ ['\\', '\'', '"', '$', ' '] then some c else if c = 'n' then some '\n' else none

/-- One character of a value. The flag says whether the value goes on. -/
def step? (vs : Variables) (p : Progress) (c : Char) : Option (Progress × Bool) :=
  let on (p : Progress) : Option (Progress × Bool) := some (p, true)
  if p.ending then
    if c = ' ' ∨ c = '\t' then on p else if c = '#' then some (p, false) else none
  else if p.escaped then do
    return ({ p with escaped := false }.emit [← escape? c], true)
  else if p.strong then
    on (if c = '\'' then { p with strong := false } else p.emit [c])
  else match p.naming with
    | .bare name =>
      if Text.isAlphanumeric c then on { p with naming := .bare (name ++ [c]) }
      else if c = '\x7b' ∧ name = [] then on { p with naming := .braced [] }
      else
        let p := p.named vs name
        on (if c = '$' then { p with naming := .bare [] } else p.emit [c])
    | .braced name =>
      on (if c = '\x7d' then p.named vs name else { p with naming := .braced (name ++ [c]) })
    | .none =>
      on <|
        if c = '$' then { p with naming := .bare [] }
        else if c = '\\' then { p with escaped := true }
        else if p.weak then if c = '"' then { p with weak := false } else p.emit [c]
        else if c = '\'' then { p with strong := true }
        else if c = '"' then { p with weak := true }
        else if c = ' ' ∨ c = '\t' then { p with ending := true }
        else p.emit [c]

def steps? (vs : Variables) : Progress → List Char → Option Progress
  | p, [] => some p
  | p, c :: cs => do
    let (p, more) ← step? vs p c
    if more then steps? vs p cs else return p

/-- The text that a written value stands for. Quotes and braces have to be closed. -/
def value? (vs : Variables) (cs : List Char) : Option String := do
  let p ← steps? vs .start cs
  match p.strong || p.weak, p.naming with
  | true, _ | _, .braced _ => none
  | _, .bare name => return String.ofList (p.named vs name).out
  | _, .none => return String.ofList p.out

/-! ### Files -/

def skipBlank (cs : List Char) : List Char := cs.dropWhile Text.isBlank

/-- The name of a variable. -/
def name? (cs : List Char) : Option (String × List Char) :=
  let isNameChar (c : Char) : Bool := c.isAlphanum || c = '_' || c = '.'
  match cs with
  | c :: _ =>
    if c.isAlpha || c = '_' then
      some (String.ofList (cs.takeWhile isNameChar), skipBlank (cs.dropWhile isNameChar))
    else none
  | [] => none

/-- A name and the characters behind its equals sign. The word `export` may stand in front. -/
def assignment? (cs : List Char) : Option (String × List Char) := do
  let (name, rest) ← name? cs
  match rest with
  | '=' :: rest => return (name, skipBlank rest)
  | _ =>
    if name = "export" then
      match ← name? rest with
      | (name, '=' :: rest) => return (name, skipBlank rest)
      | _ => none
    else none

/-- The variables after one line. Blanks at its end do not count. -/
def ofLine? (vs : Variables) (line : List Char) : Option Variables :=
  match Text.trimChars line with
  | [] | '#' :: _ => some vs
  | cs => do
    let (name, rest) ← assignment? cs
    let value ← match rest with
      | [] | '#' :: _ => some ""
      | cs => value? vs cs
    if vs.any fun v => v.1 = name then return vs else return vs ++ [(name, value)]

def ofLines (vs : Variables) : List (Option (List Char)) → Variables
  | some line :: lines =>
    match ofLine? vs line with
    | some vs => ofLines vs lines
    | none => vs
  | _ => vs

/-- The variables with those of a file behind them, which may begin with a byte order mark. -/
def fill (vs : Variables) (text : String) : Variables :=
  let cs := match text.toList with
    | '\ufeff' :: cs => cs
    | cs => cs
  ofLines vs (joinLines [] .plain (rawLines cs))

end SwapPlan.EnvFile

import SwapPlan.Yaml.Scalar

/-!
The tokens of a YAML document. The depth of a line opens and closes collections, and a colon makes
a key of what stands before it, so some tokens come into place only behind others.
-/

namespace SwapPlan.Yaml

inductive Token
  | documentStart | documentEnd | directive
  | blockSequence | blockMapping | blockEnd
  | flowSequence | flowSequenceEnd | flowMapping | flowMappingEnd
  | comma | dash | key | value
  | anchor (name : String)
  | reference (name : String)
  /-- A tag, with its name if it is one of those that begin with two marks. -/
  | tag (name : Option String)
  | scalar (plain : Bool) (text : String)
deriving DecidableEq

/-- A place where a key begins, should a colon follow. -/
structure Candidate where
  /-- The number of tokens before it. -/
  tokens : Nat
  line : Nat
  column : Nat
  /-- The number of characters from it on. -/
  ahead : Nat
  /-- No colon would be a fault. -/
  required : Bool

/-- A level of indentation around another: its column, and whether the inner one is a block
collection rather than a column kept clear. -/
structure Level where
  column : Int
  isBlock : Bool

/-- A document up to some place. -/
structure Scan where
  cursor : Cursor
  tokens : List Token
  indent : Int
  /-- The levels around, the innermost first. -/
  outer : List Level
  /-- The open collections in brackets and braces, the innermost first, and whether it is a
  sequence. -/
  flow : List Bool
  /-- For the block and for each of those, the place where a key may have begun. -/
  candidates : List (Option Candidate)
  mayBeginKey : Bool
  /-- How many characters were ahead behind the last quoted scalar or closed collection, where a
  colon needs no space behind it. -/
  adjacent : Option Nat

namespace Scan

def start (cs : List Char) : Scan := ⟨.start cs, [], -1, [], [], [none], true, none⟩

def inFlow (s : Scan) : Bool := s.flow ≠ []

def column (s : Scan) : Int := s.cursor.column

def push (s : Scan) (t : Token) : Scan := { s with tokens := s.tokens ++ [t] }

/-- Puts a token behind the first `n`. -/
def insert (s : Scan) (n : Nat) (t : Token) : Scan :=
  { s with tokens := s.tokens.take n ++ t :: s.tokens.drop n }

def skip (s : Scan) : Scan := { s with cursor := s.cursor.skip }

def skipBlanks? (s : Scan) : Option Scan := do return { s with cursor := ← s.cursor.skipBlanks? }

/-! ### Indentation -/

/-- The levels that are left when all right of a column are closed, and the block ends for it. -/
def levelsFrom (column : Int) : (indent : Int) → List Level → (Int × List Level) × List Token
  | indent, [] => ((indent, []), [])
  | indent, l :: ls =>
    if indent ≤ column then ((indent, l :: ls), [])
    else
      let (left, ends) := levelsFrom column l.column ls
      (left, if l.isBlock then .blockEnd :: ends else ends)

/-- Closes the block collections right of a column. -/
def closeTo (s : Scan) (column : Int) : Scan :=
  if s.inFlow then s
  else
    let ((indent, outer), ends) := levelsFrom column s.indent s.outer
    { s with indent, outer, tokens := s.tokens ++ ends }

/-- Opens a block collection at a column, unless there is one, with its token behind the first
`n`. -/
def openAt (s : Scan) (column : Int) (n : Nat) (t : Token) : Scan :=
  if s.inFlow then s
  else
    let s := match s.outer with
      | l :: ls =>
        if s.indent ≤ column ∧ !l.isBlock then { s with indent := l.column, outer := ls } else s
      | [] => s
    if s.indent < column then
      ({ s with indent := column, outer := ⟨s.indent, true⟩ :: s.outer }).insert n t
    else s

/-- Keeps the column of a block collection clear of what it holds. -/
def clearColumn (s : Scan) : Scan :=
  match s.outer with
  | l :: _ =>
    if !s.inFlow ∧ l.isBlock then
      { s with indent := s.indent + 1, outer := ⟨s.indent, false⟩ :: s.outer }
    else s
  | [] => s

/-- The indentation of the innermost block collection. -/
def blockLevels : (indent : Int) → List Level → Int × List Level
  | indent, [] => (indent, [])
  | indent, l :: ls => if l.isBlock then (indent, l :: ls) else blockLevels l.column ls

def toBlock (s : Scan) : Scan :=
  let (indent, outer) := blockLevels s.indent s.outer
  { s with indent, outer }

/-! ### Keys -/

/-- Notes that a key may begin here. -/
def noteKey (s : Scan) : Scan :=
  if !s.mayBeginKey then s
  else
    let required := !s.inFlow && s.indent = s.column && s.outer.head?.any (·.isBlock)
    let here : Candidate :=
      ⟨s.tokens.length, s.cursor.line, s.cursor.column, s.cursor.rest.length, required⟩
    { s with candidates := some here :: s.candidates.drop 1 }

/-- Gives up the key that may have begun. -/
def dropKey? (s : Scan) : Option Scan :=
  match s.candidates with
  | some k :: ks => if k.required then none else some { s with candidates := none :: ks }
  | _ => some s

/-- Outside brackets and braces, a key ends in its line and has at most 1024 characters. -/
def dropStale? (s : Scan) : Option Scan := do
  if s.inFlow then return s
  else
    let candidates ← s.candidates.mapM fun
      | some k =>
        if k.line < s.cursor.line ∨ s.cursor.rest.length + 1024 < k.ahead then
          if k.required then none else some none
        else some (some k)
      | none => some none
    return { s with candidates }

/-! ### Collections -/

def openFlow? (s : Scan) (isSequence : Bool) : Option Scan := do
  let s := s.noteKey.clearColumn
  let s := { s with flow := isSequence :: s.flow, candidates := none :: s.candidates
                    mayBeginKey := true }
  return (← s.skip.skipBlanks?).push (if isSequence then .flowSequence else .flowMapping)

def closeFlow? (s : Scan) (t : Token) : Option Scan := do
  let s ← s.dropKey?
  let s := { s with flow := s.flow.drop 1, mayBeginKey := false
                    candidates := if s.inFlow then s.candidates.drop 1 else s.candidates }
  let s ← s.skip.skipBlanks?
  let adjacent := if s.inFlow then some s.cursor.rest.length else s.adjacent
  return ({ s with adjacent }).push t

def comma? (s : Scan) : Option Scan := do
  let s ← s.dropKey?
  return (← ({ s with mayBeginKey := true }).skip.skipBlanks?).push .comma

/-- A dash in front of an item. -/
def dash? (s : Scan) : Option Scan := do
  if s.inFlow ∨ !s.mayBeginKey then none
  else
    let tabbed := '\t' ∈ s.cursor.skip.blanks
    let s ← (s.skip.openAt s.cursor.column s.tokens.length .blockSequence).skipBlanks?
    let dashed : Bool := match s.cursor.rest with
      | '-' :: rest => rest.head?.all isSpace
      | _ => false
    if tabbed ∧ dashed then none
    else
      let s := if s.cursor.rest.head?.any fun c => isBreak c || isFlow c then s.clearColumn else s
      return ({ (← s.dropKey?) with mayBeginKey := true }).push .dash

/-- A question mark in front of a key, which no tab may set apart. -/
def question? (s : Scan) : Option Scan := do
  let behind := s.cursor.rest.drop 1
  let spaced := behind.head?.any (· ≠ '\t') && (behind.dropWhile (· = ' ')).head? ≠ some '\t'
  if !spaced ∨ (!s.inFlow ∧ !s.mayBeginKey) then none
  else
    let s ← (s.openAt s.cursor.column s.tokens.length .blockMapping).dropKey?
    return ({ s with mayBeginKey := !s.inFlow }).skip.push .key

/-- A colon in front of a value. -/
def colon? (s : Scan) : Option Scan := do
  let behind := s.cursor.skip
  let cursor ← if behind.rest.head? = some '\t' then behind.skipBlanks? else some behind
  if behind.rest.head? = some '\t' ∧ ' ' ∉ behind.blanks ∧
      cursor.rest.head?.any fun c => c.isAlphanum || c = '_' || c = '-' then none
  else
    let column := s.cursor.column
    let line := s.cursor.line
    let s := { s with cursor }
    match s.candidates with
    | some k :: ks =>
      if s.flow.head? = some true ∧ k.line < line then none
      else
        let s := ((s.insert k.tokens .key).openAt k.column k.tokens .blockMapping).clearColumn
        return ({ s with candidates := none :: ks, mayBeginKey := false }).push .value
    | _ =>
      if s.inFlow then return ({ s with mayBeginKey := false }).push .value
      else if !s.mayBeginKey then none
      else return (s.openAt column s.tokens.length .blockMapping).clearColumn.push .value

/-! ### Marks of nodes -/

def isTagChar (c : Char) : Bool :=
  c.isAlphanum || c ∈ "-#;/?:@&=+$_.~*'()%".toList

/-- The name of an anchor, which is not empty. -/
def named? (s : Scan) (t : String → Token) : Option Scan :=
  let s := { s.noteKey with mayBeginKey := false }
  let name := s.cursor.skip.rest.takeWhile fun c => !isSpace c && !isFlow c
  if name = [] then none
  else some (({ s with cursor := s.cursor.skipMany (name.length + 1) }).push
    (t (String.ofList name)))

/-- A tag: in full between angle brackets, or with one or two marks. -/
def tag? (s : Scan) : Option Scan := do
  let s := { s.noteKey with mayBeginKey := false }
  let (name, length) ← match s.cursor.rest with
    | '!' :: '<' :: rest =>
      let inner := rest.takeWhile (· ≠ '>')
      if inner = [] ∨ inner.any isSpace ∨ inner.length = rest.length then none
      else some (none, inner.length + 3)
    | '!' :: '!' :: rest =>
      let name := rest.takeWhile isTagChar
      if name = [] then none else some (some (String.ofList name), name.length + 2)
    | _ :: rest => some (none, (rest.takeWhile isTagChar).length + 1)
    | [] => none
  let cursor := s.cursor.skipMany length
  if cursor.rest.head?.all isSpace ∨ (s.inFlow ∧ cursor.rest.head?.any isFlow) then
    return ({ s with cursor }).push (.tag name)
  else none

/-! ### Scalars -/

def plainScalar? (s : Scan) : Option Scan := do
  let s := { s.noteKey with mayBeginKey := false }.toBlock
  if s.inFlow ∧ s.column ≤ s.indent then none
  else
    let (text, cursor) ← plain? s.inFlow (s.indent + 1) (s.cursor.rest.length + 1) s.cursor
    if text = [] then none
    else
      let t : Token := .scalar true (String.ofList text)
      return ({ s with cursor, mayBeginKey := cursor.leading }).push t

/-- A quoted scalar, behind which only the marks of collections may follow in its line. -/
def quotedScalar? (s : Scan) (quote : Char) : Option Scan := do
  let s := { s.noteKey with mayBeginKey := false }
  let (text, behind) ← quoted? quote s.indent (s.cursor.rest.length + 1) s.cursor.skip
  let behind ← behind.skipBlanks?
  let admitted : Bool := match behind.rest.head? with
    | some ':' => s.inFlow || s.cursor.line = behind.line
    | some c => isBreak c || (s.inFlow && c ∈ [',', ']', '\x7d'])
    | none => true
  if !admitted then none
  else
    let (broken, cursor) ←
      behind.skipSpace? (s.outer ≠ []) s.indent (behind.rest.length + 1)
    let t : Token := .scalar false (String.ofList text)
    let adjacent := some cursor.rest.length
    return ({ s with cursor, adjacent, mayBeginKey := broken && !s.inFlow }).push t

def blockScalar? (s : Scan) (literal : Bool) : Option Scan := do
  let s := { s.noteKey with mayBeginKey := true }.toBlock
  let (text, cursor) ← block? literal s.indent s.cursor.skip
  let t : Token := .scalar false (String.ofList text)
  return ({ s with cursor }).push t

/-! ### Documents -/

/-- A mark between documents. Nothing follows the end of a document in its line. -/
def marker? (s : Scan) (isEnd : Bool) : Option Scan := do
  let s ← (s.closeTo (-1)).dropKey?
  let s := { s with cursor := s.cursor.skipMany 3, mayBeginKey := false }
  if isEnd then
    let s ← (s.push .documentEnd).skipBlanks?
    if s.cursor.atLineEnd then some s else none
  else return s.push .documentStart

/-- A line with a directive. One that names a version has to name it well. -/
def directive? (s : Scan) : Option Scan := do
  let s ← (s.closeTo (-1)).dropKey?
  let s := { s with mayBeginKey := false }
  let line := (s.cursor.rest.drop 1).takeWhile fun c => !isBreak c
  let name := line.takeWhile fun c => c.isAlphanum || c = '_' || c = '-'
  if name = [] ∨ (line.drop name.length).head?.any fun c => !isBlank c then none
  else
    let rest := (line.drop name.length).dropWhile isBlank
    let major := rest.takeWhile Char.isDigit
    let rest := rest.drop major.length
    let minor := (rest.drop 1).takeWhile Char.isDigit
    let behind := (rest.drop 1).drop minor.length
    let versioned : Bool := major ≠ [] && rest.head? = some '.' && minor ≠ []
      && behind.head?.all isBlank && (behind.dropWhile isBlank).head?.all (· = '#')
    if name = "YAML".toList ∧ !versioned then none
    else return ({ s with cursor := s.cursor.skipLine.skipBreak }).push .directive

/-- The tokens, once nothing is ahead. -/
def finish? (s : Scan) : Option (List Token) :=
  if s.candidates.any fun k => k.any (·.required) then none
  else some (s.closeTo (-1)).tokens

/-- Passes what is no token, and closes the collections that end there. -/
def skipSpace? (s : Scan) : Option Scan := do
  let (broken, cursor) ←
    s.cursor.skipSpace? (s.outer ≠ []) s.indent (s.cursor.rest.length + 1)
  let mayBeginKey := s.mayBeginKey || (broken && !s.inFlow)
  let s ← ({ s with cursor, mayBeginKey }).dropStale?
  return s.closeTo s.column

/-- Reads a token that begins with a character, for the characters behind it. -/
def next? (s : Scan) (c : Char) (rest : List Char) : Option Scan :=
  let lone := rest.head?.all isSpace
  let valued := lone || (s.inFlow &&
    (rest.head?.any isFlow || s.adjacent = some s.cursor.rest.length))
  if s.cursor.column = 0 ∧ c = '%' then s.directive?
  else if s.cursor.marker?.isSome then s.marker? (c = '.')
  else if s.column < s.indent then none
  else match c with
    | '[' => s.openFlow? true
    | '\x7b' => s.openFlow? false
    | ']' => s.closeFlow? .flowSequenceEnd
    | '\x7d' => s.closeFlow? .flowMappingEnd
    | ',' => s.comma?
    | '*' => s.named? .reference
    | '&' => s.named? .anchor
    | '!' => s.tag?
    | '\'' | '"' => s.quotedScalar? c
    | '%' | '@' | '\x60' => none
    | c =>
      if c = '-' ∧ lone then s.dash?
      else if c = '?' ∧ lone then s.question?
      else if c = ':' ∧ valued then s.colon?
      else if (c = '|' ∨ c = '>') ∧ !s.inFlow then s.blockScalar? (c = '|')
      else s.plainScalar?

/-- Reads all tokens that follow. -/
def run : (fuel : Nat) → Scan → Option (List Token)
  | 0, _ => none
  | n + 1, s => do
    let s ← s.skipSpace?
    match s.cursor.rest with
    | [] => s.finish?
    | c :: rest => run n (← s.next? c rest)

end Scan

/-- The tokens of a document, which ends at the first character zero. -/
def tokens? (cs : List Char) : Option (List Token) :=
  let cs := cs.takeWhile (· ≠ '\x00')
  (Scan.start cs).run (cs.length + 2)

end SwapPlan.Yaml

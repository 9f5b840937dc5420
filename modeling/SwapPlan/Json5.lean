import SwapPlan.Json.Text
import SwapPlan.Settings.Value
import SwapPlan.Text.Alphanumeric
import SwapPlan.Text.Blank

/-!
Reading JSON5 documents: JSON with comments, names without quotes, strings in either quotes, more
spellings of numbers, and a comma behind the last item.
-/

namespace SwapPlan.Json5

/-- A part of a document, and the characters behind it. -/
abbrev Part (α : Type) := α × List Char

def isLineEnd (c : Char) : Bool := c.toNat ∈ [0x0a, 0x0d, 0x2028, 0x2029]

def isSpace (c : Char) : Bool := (Text.isBlank c && c ≠ '\x85') || c = '\ufeff'

/-! ### Space and comments -/

/-- The characters behind the end of a comment that has been opened. -/
def closeComment : List Char → Option (List Char)
  | [] => none
  | '*' :: '/' :: cs => some cs
  | _ :: cs => closeComment cs

/-- Skips space and comments. A comment that is not closed stays ahead. -/
def skip : (fuel : Nat) → List Char → List Char
  | 0, cs => cs
  | n + 1, cs =>
    match cs.dropWhile isSpace with
    | '/' :: '/' :: rest => skip n (rest.dropWhile fun c => !isLineEnd c)
    | '/' :: '*' :: rest =>
      match closeComment rest with
      | some rest => skip n rest
      | none => '/' :: '*' :: rest
    | cs => cs

def skipAll (cs : List Char) : List Char := skip (cs.length + 1) cs

/-! ### Strings and names -/

/-- The character of an escape with one letter. Most characters stand for themselves. -/
def escape? (c : Char) : Option Char :=
  match c with
  | 'b' => some '\x08'
  | 'f' => some '\x0c'
  | 'n' => some '\n'
  | 'r' => some '\r'
  | 't' => some '\t'
  | 'v' => some '\x0b'
  | '0' => some '\x00'
  | c => if c.isDigit || c = 'x' || c = 'u' then none else some c

/-- The code units of a string up to its closing quote. -/
def stringUnits (quote : Char) : List Char → Option (Part (List Nat))
  | [] => none
  | '\\' :: 'x' :: a :: b :: cs => do
    let u ← Text.numberIn? 16 [a, b]
    let (us, rest) ← stringUnits quote cs
    return (u :: us, rest)
  | '\\' :: 'u' :: a :: b :: c :: d :: cs => do
    let u ← Text.numberIn? 16 [a, b, c, d]
    let (us, rest) ← stringUnits quote cs
    return (u :: us, rest)
  | '\\' :: '\r' :: '\n' :: cs => stringUnits quote cs
  | '\\' :: c :: cs =>
    if isLineEnd c then stringUnits quote cs
    else do
      let e ← escape? c
      let (us, rest) ← stringUnits quote cs
      return (e.toNat :: us, rest)
  | c :: cs =>
    if c = quote then some ([], cs)
    else if c = '\\' ∨ isLineEnd c then none
    else do
      let (us, rest) ← stringUnits quote cs
      return (c.toNat :: us, rest)

/-- The string whose opening quote has been read. -/
def string (quote : Char) (cs : List Char) : Option (Part String) := do
  let (units, rest) ← stringUnits quote cs
  return (String.ofList (← Json.joinUnits units), rest)

def isNameStart (c : Char) : Bool :=
  c = '$' || c = '_' || (Text.isAlphanumeric c && !c.isDigit)

def isNameChar (c : Char) : Bool :=
  isNameStart c || c.isDigit || c.toNat ∈ [0x200c, 0x200d]

/-- The name of a field, in quotes or bare. -/
def name (cs : List Char) : Option (Part String) :=
  match cs with
  | '"' :: cs => string '"' cs
  | '\'' :: cs => string '\'' cs
  | c :: _ =>
    if isNameStart c then
      some (String.ofList (cs.takeWhile isNameChar), cs.dropWhile isNameChar)
    else none
  | [] => none

/-! ### Numbers -/

/-- The digits ahead. -/
def digits (cs : List Char) : List Char × List Char :=
  (cs.takeWhile Char.isDigit, cs.dropWhile Char.isDigit)

/-- The exponent ahead with its mark, if there is one. -/
def exponent (cs : List Char) : List Char × List Char :=
  match cs with
  | e :: rest =>
    if !Text.isExponentMark e then ([], cs)
    else
      let (sign, rest) := match rest with
        | '-' :: rest => (['-'], rest)
        | '+' :: rest => (['+'], rest)
        | rest => ([], rest)
      let (ds, rest) := digits rest
      if ds = [] then ([], cs) else (e :: sign ++ ds, rest)
  | [] => ([], [])

/-- The decimal digits ahead with point and exponent, and whether there is either. -/
def decimal (cs : List Char) : Option (Part (List Char × Bool)) :=
  let (whole, rest) := match cs with
    | '0' :: rest => (['0'], rest)
    | cs => digits cs
  let (places, rest, pointed) := match rest with
    | '.' :: behind =>
      let (ds, behind) := digits behind
      if whole = [] ∧ ds = [] then ([], rest, false) else ('.' :: ds, behind, true)
    | rest => ([], rest, false)
  if whole = [] ∧ !pointed then none
  else
    let (power, rest) := exponent rest
    some ((whole ++ places ++ power, pointed || power ≠ []), rest)

/-- A number: whole in 64 bits, hexadecimal in 32 bits and without a sign, or a finite double. -/
def number (cs : List Char) : Option (Part SettingValue) :=
  let (sign, size) := match cs with
    | '-' :: rest => (['-'], rest)
    | '+' :: rest => (['+'], rest)
    | rest => ([], rest)
  let negative := sign = ['-']
  let hexadecimal (ds : List Char) : Option (Part SettingValue) :=
    let hs := ds.takeWhile fun c => (Hex.value? c).isSome
    match Text.numberIn? 16 hs with
    | some n =>
      if hs = [] ∨ sign ≠ [] ∨ n ≥ UInt32.size then none
      else some (.int n, ds.dropWhile fun c => (Hex.value? c).isSome)
    | none => none
  match size with
  | '0' :: 'x' :: ds | '0' :: 'X' :: ds => hexadecimal ds
  | 'I' :: 'n' :: 'f' :: 'i' :: 'n' :: 'i' :: 't' :: 'y' :: rest =>
    some (.float (if negative then -1.0 / 0.0 else 1.0 / 0.0), rest)
  | 'N' :: 'a' :: 'N' :: rest => some (.float (0.0 / 0.0), rest)
  | size => do
    let ((ds, real), rest) ← decimal size
    let text := String.ofList (sign ++ ds)
    if real then
      let x ← Text.float? text
      if x.isInf then none else return (.float x, rest)
    else return (.int (← Text.integer? text), rest)

/-! ### Values -/

/-- Items up to a closing character, with commas between them and maybe behind the last. -/
def items {α : Type} (closing : Char) (item : List Char → Option (Part α)) :
    (fuel : Nat) → List Char → Option (Part (List α))
  | 0, _ => none
  | n + 1, cs => do
    let (a, cs) ← item cs
    match skipAll cs with
    | ',' :: cs =>
      match skipAll cs with
      | c :: rest =>
        if c = closing then return ([a], rest)
        else
          let (as, rest) ← items closing item n (c :: rest)
          return (a :: as, rest)
      | [] => none
    | c :: rest => if c = closing then return ([a], rest) else none
    | [] => none

/-- A field with its name. -/
def field (value : List Char → Option (Part SettingValue)) (cs : List Char) :
    Option (Part (String × SettingValue)) := do
  let (name, cs) ← name cs
  match skipAll cs with
  | ':' :: cs =>
    let (v, rest) ← value (skipAll cs)
    return ((name, v), rest)
  | _ => none

/-- The value ahead. -/
def value : (fuel : Nat) → List Char → Option (Part SettingValue)
  | 0, _ => none
  | n + 1, cs =>
    match cs with
    | '"' :: cs => (string '"' cs).map fun (s, rest) => (.text s, rest)
    | '\'' :: cs => (string '\'' cs).map fun (s, rest) => (.text s, rest)
    | '[' :: cs =>
      match skipAll cs with
      | ']' :: rest => some (.list [], rest)
      | cs => (items ']' (fun cs => value n cs) n cs).map fun (vs, rest) => (.list vs, rest)
    | '\x7b' :: cs =>
      match skipAll cs with
      | '\x7d' :: rest => some (.table [], rest)
      | cs =>
        (items '\x7d' (fun cs => field (fun cs => value n cs) cs) n cs).map
          fun (fs, rest) => (.table fs, rest)
    | 'n' :: cs => (Json.behind? "ull".toList cs).map fun rest => (.null, rest)
    | 't' :: cs => (Json.behind? "rue".toList cs).map fun rest => (.bool true, rest)
    | 'f' :: cs => (Json.behind? "alse".toList cs).map fun rest => (.bool false, rest)
    | cs => number cs

/-- The fields of a document, which is an object. -/
def ofText (s : String) : Option (List (String × SettingValue)) := do
  let cs := s.toList
  match ← value (cs.length + 1) (skipAll cs) with
  | (.table fs, rest) => if skipAll rest = [] then return fs else none
  | _ => none

end SwapPlan.Json5

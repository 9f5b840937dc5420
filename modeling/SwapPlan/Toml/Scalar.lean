import SwapPlan.Settings.Value

/-!
Numbers and times in TOML documents. An underscore may stand between two digits; whole numbers
fit 64 bits with a sign; times are kept as texts in one spelling.
-/

namespace SwapPlan.Toml

/-- Drops the underscores of digits that `ok` admits; every underscore stands between two. -/
def plainDigits? (ok : Char → Bool) (cs : List Char) : Option (List Char) :=
  let rec go (behindDigit : Bool) : List Char → Option (List Char)
    | [] => if behindDigit then some [] else none
    | '_' :: cs => if behindDigit then go false cs else none
    | c :: cs => if ok c then (go true cs).map (c :: ·) else none
  go false cs

def natOfDigits (base : Nat) (ds : List Char) : Nat :=
  ds.foldl (fun n d => base * n + (Hex.value? d).getD 0) 0

/-- Digits without a leading zero, apart from zero itself. -/
def wholeDigits? (cs : List Char) : Option (List Char) := do
  let ds ← plainDigits? Char.isDigit cs
  if ds.head? = some '0' ∧ ds.length > 1 then none else return ds

/-- A sign, if there is one. -/
def signed : List Char → Bool × List Char
  | '-' :: cs => (true, cs)
  | '+' :: cs => (false, cs)
  | cs => (false, cs)

def int64? (i : Int) : Option Int :=
  if Int64.minValue.toInt ≤ i ∧ i ≤ Int64.maxValue.toInt then some i else none

def basedDigit (base : Nat) (c : Char) : Bool := (Hex.value? c).any (· < base)

/-- A whole number: decimal with an optional sign, or behind the mark of another base. -/
def integer? (cs : List Char) : Option Int :=
  let based (base : Nat) (cs : List Char) : Option Int := do
    int64? (natOfDigits base (← plainDigits? (basedDigit base) cs))
  match cs with
  | '0' :: 'x' :: cs => based 16 cs
  | '0' :: 'o' :: cs => based 8 cs
  | '0' :: 'b' :: cs => based 2 cs
  | cs =>
    let (negative, cs) := signed cs
    do
      let n : Int := natOfDigits 10 (← wholeDigits? cs)
      int64? (if negative then -n else n)

/-- The characters before the first that satisfies `p`, and those from there on. -/
def splitAt (p : Char → Bool) (cs : List Char) : List Char × List Char :=
  (cs.takeWhile fun c => !p c, cs.dropWhile fun c => !p c)

/-- A number with a fraction, an exponent or both, or one of the words for infinity and for what
is no number. A number may be too large for a double only downwards. -/
def float? (cs : List Char) : Option Float :=
  let (negative, size) := signed cs
  if size = "inf".toList then some (if negative then -1.0 / 0.0 else 1.0 / 0.0)
  else if size = "nan".toList then some (0.0 / 0.0)
  else do
    let (mantissa, exponent) := splitAt (fun c => c = 'e' ∨ c = 'E') size
    let (whole, fraction) := splitAt (· = '.') mantissa
    if exponent = [] ∧ fraction = [] then none
    let whole ← wholeDigits? whole
    let places ← match fraction with
      | [] => some []
      | _ :: ds => plainDigits? Char.isDigit ds
    let power : Int ← match exponent with
      | [] => some 0
      | _ :: e =>
        let (down, ds) := signed e
        (plainDigits? Char.isDigit ds).map fun ds =>
          if down then -natOfDigits 10 ds else natOfDigits 10 ds
    let d : Decimal := ⟨negative, natOfDigits 10 (whole ++ places), power - places.length⟩
    if d.exceedsDouble then (if negative then some (-1.0 / 0.0) else none)
    else some d.toFloat

/-! ### Times -/

/-- A number of exactly `width` digits between two bounds. -/
def field? (width lo hi : Nat) (cs : List Char) : Option Nat :=
  if cs.length = width ∧ cs.all Char.isDigit then
    let n := natOfDigits 10 cs
    if lo ≤ n ∧ n ≤ hi then some n else none
  else none

def daysIn (year month : Nat) : Nat :=
  if month = 2 then if year % 4 = 0 ∧ (year % 100 ≠ 0 ∨ year % 400 = 0) then 29 else 28
  else if month ∈ [4, 6, 9, 11] then 30
  else 31

/-- A date is written as it is read. -/
def date? (cs : List Char) : Option (List Char) := do
  let year ← field? 4 0 9999 (cs.take 4)
  let month ← field? 2 1 12 ((cs.drop 5).take 2)
  let _ ← field? 2 1 (daysIn year month) (cs.drop 8)
  if cs[4]? = some '-' ∧ cs[7]? = some '-' then some cs else none

/-- A fraction of a second is cut behind nine places, and loses its trailing zeros. -/
def fraction? : List Char → Option (List Char)
  | [] => some []
  | '.' :: ds =>
    if ds = [] ∨ !ds.all Char.isDigit then none
    else
      let kept := ((ds.take 9).reverse.dropWhile (· = '0')).reverse
      some (if kept = [] then [] else '.' :: kept)
  | _ => none

/-- Hours, minutes, and seconds with an optional fraction. -/
def time? (cs : List Char) : Option (List Char) := do
  let _ ← field? 2 0 23 (cs.take 2)
  let _ ← field? 2 0 59 ((cs.drop 3).take 2)
  let _ ← field? 2 0 60 ((cs.drop 6).take 2)
  if cs[2]? = some ':' ∧ cs[5]? = some ':' then return cs.take 8 ++ (← fraction? (cs.drop 8))
  else none

/-- A distance from universal time; one of zero has a plus. -/
def offset? : List Char → Option (List Char)
  | [] => some []
  | ['Z'] | ['z'] => some ['Z']
  | sign :: cs => do
    let hours ← field? 2 0 23 (cs.take 2)
    let minutes ← field? 2 0 59 (cs.drop 3)
    if (sign = '+' ∨ sign = '-') ∧ cs[2]? = some ':' then
      return (if hours = 0 ∧ minutes = 0 then '+' else sign) :: cs
    else none

/-- A time with an optional distance from universal time. -/
def timeWithOffset? (cs : List Char) : Option (List Char) := do
  let (time, offset) := splitAt (fun c => c ∈ ['Z', 'z', '+', '-']) cs
  return (← time? time) ++ (← offset? offset)

/-- A date, a time, or both with the letter `T` between them. -/
def moment? (cs : List Char) : Option (List Char) :=
  match cs.drop 10 with
  | [] => (date? cs).or (time? cs)
  | sep :: time =>
    if sep = 'T' ∨ sep = 't' then do
      return (← date? (cs.take 10)) ++ 'T' :: (← timeWithOffset? time)
    else time? cs

/-- The value of a word that begins with a digit, a sign or a letter. -/
def scalar? (cs : List Char) : Option SettingValue :=
  if cs = "true".toList then some (.bool true)
  else if cs = "false".toList then some (.bool false)
  else match integer? cs with
    | some i => some (.int i)
    | none =>
      match float? cs with
      | some x => some (.float x)
      | none => (moment? cs).map fun t => .text (String.ofList t)

end SwapPlan.Toml

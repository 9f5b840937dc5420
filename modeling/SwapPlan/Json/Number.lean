import SwapPlan.Json.Basic
import SwapPlan.Text.Number

/-!
Numbers in JSON texts. A number with neither fraction nor exponent is whole if 64 bits hold it.
Any other is a double: its digits are gathered in 64 bits, those that do not fit are dropped, and
one product or quotient with a power of ten gives the value. It may be off in its last place.
-/

namespace SwapPlan.Json

/-- A number while its digits are read, `significand * 10 ^ exponent`. -/
structure Gathered where
  significand : Nat
  exponent : Int
  /-- A digit has been dropped. -/
  full : Bool
deriving DecidableEq

namespace Gathered

def start : Gathered := ⟨0, 0, false⟩

/-- The significand with a digit more, if 64 bits hold it. -/
def extended? (g : Gathered) (d : Char) : Option Nat :=
  let n := 10 * g.significand + (d.toNat - 48)
  if g.full ∨ n ≥ UInt64.size then none else some n

/-- A digit before the point. Once one is dropped, each counts as a place. -/
def addWhole (g : Gathered) (d : Char) : Gathered :=
  match g.extended? d with
  | some n => { g with significand := n }
  | none => ⟨g.significand, g.exponent + 1, true⟩

/-- A digit behind the point. Once one is dropped, the others are too. -/
def addPlace (g : Gathered) (d : Char) : Gathered :=
  match g.extended? d with
  | some n => { g with significand := n, exponent := g.exponent - 1 }
  | none => { g with full := true }

def ofDigits (whole places : List Char) : Gathered :=
  places.foldl addPlace { whole.foldl addWhole start with full := false }

end Gathered

/-- A double times a power of ten, by table steps of at most 308 places. Nothing, if it is too
large. -/
def scaleByTen : (steps : Nat) → Float → Int → Option Float
  | 0, x, _ => some x
  | n + 1, x, e =>
    if e.natAbs ≤ 308 then
      let power := Float.ofScientific 1 false e.natAbs
      if e < 0 then some (x / power)
      else if (x * power).isInf then none
      else some (x * power)
    else if x == 0.0 then some x
    else if 0 < e then none
    else scaleByTen n (x / 1e308) (e + 308)

/-- The double of the digits before and behind the point and of the digits of an exponent. An
exponent beyond 31 bits leaves zero. -/
def double? (whole places : List Char) (down : Bool) (power : Nat) : Option Float :=
  let g := Gathered.ofDigits whole places
  if power > Int32.maxValue.toInt.toNat then
    if g.significand ≠ 0 ∧ !down then none else some 0.0
  else
    -- two steps reach zero from any significand
    scaleByTen 3 g.significand.toUInt64.toFloat
      (if down then g.exponent - power else g.exponent + power)

/-- The value of a number's parts. Minus zero is not whole. -/
def ofParts (negative : Bool) (whole : List Char) (places : Option (List Char))
    (exponent : Option (Bool × Nat)) : Json :=
  let size : Int := Text.natOfDigits whole
  let value := if negative then -size else size
  let fits := if negative then Int64.minValue.toInt ≤ value ∧ value < 0 else value < UInt64.size
  if places.isNone ∧ exponent.isNone ∧ fits then int value
  else
    let (down, power) := exponent.getD (false, 0)
    match double? whole (places.getD []) down power with
    | some x => real (if negative then -x else x)
    | none => unreadable

/-! ### Reading -/

/-- The digits ahead, of which there is at least one. -/
def digits? (cs : List Char) : Option (List Char × List Char) :=
  let ds := cs.takeWhile Char.isDigit
  if ds = [] then none else some (ds, cs.dropWhile Char.isDigit)

/-- The exponent ahead, if there is one: whether it is negative, and its size. Nothing where its
digits are missing. -/
def readExponent : List Char → Option (Option (Bool × Nat) × List Char)
  | [] => some (none, [])
  | c :: cs =>
    if c ≠ 'e' ∧ c ≠ 'E' then some (none, c :: cs)
    else do
      let (ds, rest) ← digits? (Text.unsign cs).2
      return (some ((Text.unsign cs).1, Text.natOfDigits ds), rest)

/-- The digits behind a decimal point, none if there is no point. -/
def readPlaces : List Char → Option (Option (List Char) × List Char)
  | '.' :: cs => do
    let (ds, rest) ← digits? cs
    return (some ds, rest)
  | cs => some (none, cs)

/-- The number ahead, behind its sign, and what follows it. -/
def number? (negative : Bool) (cs : List Char) : Option (Json × List Char) := do
  let (whole, rest) ← digits? cs
  if whole.head? = some '0' ∧ whole.length > 1 then none
  else
    let (places, rest) ← readPlaces rest
    let (exponent, rest) ← readExponent rest
    return (ofParts negative whole places exponent, rest)

end SwapPlan.Json

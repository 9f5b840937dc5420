import SwapPlan.Hex
import SwapPlan.Text.Decimal

/-!
Numbers written as plain texts: whole numbers with a sign, and doubles with a point, an exponent
or a word for a value that is not finite.
-/

namespace SwapPlan.Text

def natOfDigits (ds : List Char) : Nat := ds.foldl (fun n d => 10 * n + (d.toNat - 48)) 0

/-- At least one digit and nothing else. -/
def allDigits (cs : List Char) : Bool := cs ≠ [] && cs.all Char.isDigit

/-- The number that digits of a base spell; no digits are zero. -/
def numberIn? (base : Nat) (ds : List Char) : Option Nat :=
  ds.foldlM (fun n d => do
    let v ← Hex.value? d
    if v < base then some (base * n + v) else none) 0

/-- The character with a code point. -/
def char? (n : Nat) : Option Char :=
  if n < 0xd800 ∨ (0xe000 ≤ n ∧ n < 0x110000) then some (Char.ofNat n) else none

/-- Digits behind at most one plus sign. -/
def natural? (s : String) : Option Nat :=
  let ds := match s.toList with
    | '+' :: ds => ds
    | ds => ds
  if allDigits ds then some (natOfDigits ds) else none

/-- Whether a minus sign stands in front, and what stands behind a sign of either kind. -/
def unsign : List Char → Bool × List Char
  | '-' :: cs => (true, cs)
  | '+' :: cs => (false, cs)
  | cs => (false, cs)

/-- Digits behind at most one sign, as a number of 64 bits with a sign. -/
def integer? (s : String) : Option Int :=
  let (negative, ds) := unsign s.toList
  if allDigits ds then
    let i : Int := if negative then -natOfDigits ds else natOfDigits ds
    if Int64.minValue.toInt ≤ i ∧ i ≤ Int64.maxValue.toInt then some i else none
  else none

/-- The power of ten that an exponent names, zero where there is none. -/
def exponent? : List Char → Option Int
  | [] => some 0
  | _ :: cs =>
    let (negative, ds) := unsign cs
    if allDigits ds then some (if negative then -natOfDigits ds else natOfDigits ds) else none

def isExponentMark (c : Char) : Bool := c = 'e' || c = 'E'

/-- The double nearest to a number with digits before or behind its point, or on both sides. -/
def float? (s : String) : Option Float :=
  let (negative, size) := unsign s.toList
  let word := String.ofList (size.map Char.toLower)
  if word = "inf" ∨ word = "infinity" then
    some (if negative then -1.0 / 0.0 else 1.0 / 0.0)
  else if word = "nan" then some (0.0 / 0.0)
  else
    let mantissa := size.takeWhile fun c => !isExponentMark c
    let whole := mantissa.takeWhile (· ≠ '.')
    let places := (mantissa.dropWhile (· ≠ '.')).drop 1
    if !allDigits (whole ++ places) then none
    else do
      let power ← exponent? (size.dropWhile fun c => !isExponentMark c)
      return Decimal.toFloat ⟨negative, natOfDigits (whole ++ places), power - places.length⟩

end SwapPlan.Text

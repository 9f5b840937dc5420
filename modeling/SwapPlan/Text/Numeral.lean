import SwapPlan.Hex

/-!
Numerals for unsigned amounts: hexadecimal behind `0x`, octal behind `0o`, binary behind `0b`,
else decimal. Digits are read in either case, underscores are skipped, and a numeral without
digits is zero.
-/

namespace SwapPlan.Text

/-- The base that the mark of a numeral announces, and the rest of the numeral. -/
def Numeral.base : List Char → Nat × List Char
  | '0' :: 'x' :: ds | '0' :: 'X' :: ds => (16, ds)
  | '0' :: 'o' :: ds | '0' :: 'O' :: ds => (8, ds)
  | '0' :: 'b' :: ds | '0' :: 'B' :: ds => (2, ds)
  | ds => (10, ds)

/-- Reads on from the number `n`. -/
def Numeral.digits (base n : Nat) : List Char → Option Nat
  | [] => some n
  | '_' :: ds => digits base n ds
  | d :: ds =>
    match Hex.value? d with
    | some v => if v < base then digits base (base * n + v) ds else none
    | none => none

/-- The number that a numeral denotes. -/
def numeral? (s : String) : Option Nat :=
  let (base, ds) := Numeral.base s.toList
  Numeral.digits base 0 ds

end SwapPlan.Text

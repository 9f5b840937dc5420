import SwapPlan.Bytes
import SwapPlan.Text.Blank

/-!
Hexadecimal texts. Bytes are written in lower case behind `0x`; texts are read in either case,
and calldata also between blanks and with or without the mark.
-/

namespace SwapPlan.Hex

/-- The lower-case digit of a value below sixteen. -/
def digit (n : Nat) : Char :=
  if n < 10 then Char.ofNat (48 + n) else Char.ofNat (87 + n)

/-- The value of a hexadecimal digit in either case. -/
def value? (c : Char) : Option Nat :=
  if '0' ≤ c ∧ c ≤ '9' then some (c.toNat - 48)
  else if 'a' ≤ c ∧ c ≤ 'f' then some (c.toNat - 87)
  else if 'A' ≤ c ∧ c ≤ 'F' then some (c.toNat - 55)
  else none

/-- The two digits of each byte, high half first. -/
def digits (bs : Bytes) : List Char :=
  bs.flatMap fun b => [digit (b.toNat / 16), digit (b.toNat % 16)]

def encode (bs : Bytes) : String := String.ofList ('0' :: 'x' :: digits bs)

/-- Pairs of digits, each read as one byte. -/
def decodeDigits : List Char → Option Bytes
  | [] => some []
  | [_] => none
  | a :: b :: rest => do
    let hi ← value? a
    let lo ← value? b
    let bs ← decodeDigits rest
    some (UInt8.ofNat (16 * hi + lo) :: bs)

/-- Drops at most one leading `0x` or `0X`. -/
def stripMarkChars : List Char → List Char
  | '0' :: 'x' :: rest => rest
  | '0' :: 'X' :: rest => rest
  | cs => cs

def stripMark (s : String) : String := String.ofList (stripMarkChars s.toList)

/-- Digit pairs behind an optional mark, without blanks. -/
def decode (s : String) : Option Bytes := decodeDigits (stripMarkChars s.toList)

/-- Digit pairs behind an optional mark, between blanks. -/
def decodeTrimmed (s : String) : Option Bytes :=
  decodeDigits (stripMarkChars (Text.trimChars s.toList))

/-- A number in the fewest hexadecimal digits, at least one. -/
def ofNat (n : Nat) : String := String.ofList ('0' :: 'x' :: Nat.toDigits 16 n)

end SwapPlan.Hex

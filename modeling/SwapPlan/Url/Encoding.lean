import SwapPlan.Hex

/-!
Escapes inside URLs: bytes as percent signs with two digits.
-/

namespace SwapPlan.Url

/-- The two digits of a byte in upper case. -/
def percentByte (b : UInt8) : List Char := '%' :: (Hex.digits [b]).map Char.toUpper

/-- Escapes the characters that `reserved` selects and all that are not printable ASCII. -/
def percentEncode (reserved : List Char) (cs : List Char) : List Char :=
  cs.flatMap fun c =>
    if c.toNat < 0x20 ∨ 0x7e < c.toNat ∨ c ∈ reserved then
      (String.singleton c).toUTF8.toList.flatMap percentByte
    else [c]

/-- The bytes of a text in which escapes stand for bytes. -/
def percentDecode : List Char → Bytes
  | [] => []
  | '%' :: a :: b :: cs =>
    match Hex.value? a, Hex.value? b with
    | some hi, some lo => UInt8.ofNat (16 * hi + lo) :: percentDecode cs
    | _, _ => '%'.toNat.toUInt8 :: percentDecode (a :: b :: cs)
  | c :: cs => (String.singleton c).toUTF8.toList ++ percentDecode cs

end SwapPlan.Url

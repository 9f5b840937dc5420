/-!
Decimal numbers with an exponent, their nearest double, and the shortest decimal text of a
double.
-/

namespace SwapPlan

/-- `digits * 10 ^ exponent`, negated if `negative`. -/
structure Decimal where
  negative : Bool
  digits : Nat
  exponent : Int
deriving DecidableEq

namespace Decimal

/-- The power of ten just above the number, where it is not zero. -/
def magnitude (d : Decimal) : Int := (Nat.toDigits 10 d.digits).length + d.exponent

/-- The least whole number that no double is nearest to. -/
def doubleBound : Nat := Nat.pow 2 1024 - Nat.pow 2 970

/-- The number is too large for every double. -/
def exceedsDouble (d : Decimal) : Bool :=
  if d.digits = 0 ∨ d.magnitude < 300 then false
  else if d.magnitude > 310 then true
  else if d.exponent < 0 then d.digits ≥ doubleBound * Nat.pow 10 d.exponent.natAbs
  else d.digits * Nat.pow 10 d.exponent.toNat ≥ doubleBound

/-- The nearest double; beyond the range of doubles zero or infinity. -/
def toFloat (d : Decimal) : Float :=
  let size :=
    if d.digits = 0 ∨ d.magnitude < -400 then 0.0
    else if d.magnitude > 400 then 1.0 / 0.0
    else Float.ofScientific d.digits (d.exponent < 0) d.exponent.natAbs
  if d.negative then -size else size

end Decimal

namespace Text

/-- The leading bit of a double, above the 52 that are written. -/
def hiddenBit : Nat := 0x10000000000000

/-- The parts of a positive finite double: it is the first times two to the second power. -/
def binaryParts (x : Float) : Nat × Int :=
  let bits : Nat := x.toBits.toNat
  let fraction : Nat := bits % hiddenBit
  let power : Nat := bits / hiddenBit % 2048
  if power = 0 then (fraction, -1074) else (fraction + hiddenBit, (power : Int) - 1075)

/-- The grid point `k * 10 ^ e` closest to `num / den` among those that read back as the double
with the bounds `lo / den` and `hi / den`. Of two that are equally close, the greater one. -/
def gridPoint? (num den lo hi : Nat) (closed : Bool) (e : Int) : Option Nat :=
  let up := Nat.pow 10 e.toNat
  let down := Nat.pow 10 (-e).toNat
  -- `k * up / down` lies between `lo / den` and `hi / den`
  let inside (k : Nat) : Bool :=
    let v := k * up * den
    if closed then lo * down ≤ v && v ≤ hi * down else lo * down < v && v < hi * down
  let below := num * down / (den * up)
  let above := below + 1
  let upper := 2 * (num * down) ≥ (below + above) * (den * up)
  match inside below && below ≠ 0, inside above with
  | true, true => some (if upper then above else below)
  | true, false => some below
  | false, true => some above
  | false, false => none

/-- The first grid, from the coarsest, with a point that reads back. -/
def shortestFrom (num den lo hi : Nat) (closed : Bool) : (tries : Nat) → (e : Int) → Nat × Int
  | 0, e => (num / den, e)
  | n + 1, e =>
    match gridPoint? num den lo hi closed e with
    | some k => (k, e)
    | none => shortestFrom num den lo hi closed n (e - 1)

/-- The fewest decimal digits that read back as a positive finite double, with their power. -/
def shortestDigits (x : Float) : Nat × Int :=
  let (m, q) := binaryParts x
  -- the double and the halfway points to its neighbours, over the common denominator `den`
  let scale := Nat.pow 2 q.toNat
  let den := 4 * Nat.pow 2 (-q).toNat
  let num := 4 * m * scale
  let hi := num + 2 * scale
  let lo := if m = hiddenBit ∧ q > -1074 then num - scale else num - 2 * scale
  let top : Int := (Nat.toDigits 10 (num / den)).length
  shortestFrom num den lo hi (m % 2 = 0) 400 top

/-- Digits with a point, without an exponent. -/
def positional (digits : List Char) (e : Int) : List Char :=
  if 0 ≤ e then digits ++ List.replicate e.toNat '0'
  else
    let places := e.natAbs
    if places < digits.length then
      digits.take (digits.length - places) ++ '.' :: digits.drop (digits.length - places)
    else '0' :: '.' :: List.replicate (places - digits.length) '0' ++ digits

/-- The shortest text of a double that reads back, always without an exponent. -/
def ofFloat (x : Float) : String :=
  if x.isNaN then "NaN"
  else
    let negative := x.toBits ≥ 0x8000000000000000
    let size := x.abs
    let body : List Char :=
      if size.isInf then "inf".toList
      else if size == 0.0 then ['0']
      else
        let (k, e) := shortestDigits size
        positional (Nat.toDigits 10 k) e
    String.ofList (if negative then '-' :: body else body)

end Text

end SwapPlan

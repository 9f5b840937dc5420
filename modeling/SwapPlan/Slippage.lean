import SwapPlan.Error

/-!
Slippage tolerances and the rounding buffer: how far a traded amount may fall behind its quote.
Every product is formed in full before it is divided, and refused where it needs more than
256 bits.
-/

namespace SwapPlan

/-- A ratio between zero and one. -/
structure Percent where
  numerator : Amount
  denominator : Amount
  denominator_pos : 0 < denominator.toNat
  numerator_le : numerator.toNat ≤ denominator.toNat
deriving DecidableEq

namespace Percent

def ofRatio (n d : Amount) : Except Error Percent :=
  if hd : d.toNat = 0 then .error .zeroDenominator
  else if hn : d.toNat < n.toNat then .error .toleranceAboveWhole
  else .ok ⟨n, d, by omega, by omega⟩

def ofBps (bps : UInt64) : Except Error Percent :=
  ofRatio (BitVec.ofNat 256 bps.toNat) (BitVec.ofNat 256 Defaults.wholeBps)

/-- One plus the ratio, as a numerator over the same denominator. -/
def onePlus (p : Percent) : Except Error Amount :=
  match p.denominator.add? p.numerator with
  | some s => .ok s
  | none => .error .onePlusToleranceTooLarge

/-- The product of an amount and a factor. -/
def scale (a factor : Amount) : Except Error Amount :=
  match a.mul? factor with
  | some s => .ok s
  | none => .error (.amountTooLarge a)

/-- `a / (1 + p)`, rounded down. -/
def discount (p : Percent) (a : Amount) : Except Error Amount := do
  let scaled ← scale a p.denominator
  let whole ← p.onePlus
  return scaled / whole

/-- `a * (1 + p)`, rounded down. -/
def premium (p : Percent) (a : Amount) : Except Error Amount := do
  let whole ← p.onePlus
  let scaled ← scale a whole
  return scaled / p.denominator

end Percent

/-- A margin below one whole that is taken off minimums derived from previews. -/
structure RoundingBuffer where
  bps : UInt16
  bps_lt : bps.toNat < Defaults.wholeBps
deriving DecidableEq

namespace RoundingBuffer

def ofBps (bps : UInt16) : Except Error RoundingBuffer :=
  if h : bps.toNat < Defaults.wholeBps then .ok ⟨bps, h⟩ else .error (.bufferVoid bps)

def standard : RoundingBuffer := ⟨Defaults.roundingBufferBps, by decide⟩

/-- The amount less its margin; the margin is rounded down. -/
def apply (b : RoundingBuffer) (a : Amount) : Except Error Amount :=
  if b.bps = 0 then .ok a
  else do
    let scaled ← Percent.scale a (BitVec.ofNat 256 b.bps.toNat)
    return a - scaled / BitVec.ofNat 256 Defaults.wholeBps

end RoundingBuffer

end SwapPlan

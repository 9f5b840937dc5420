import SwapPlan.Hex
import SwapPlan.Keccak

/-!
Account addresses: twenty bytes, written in lower case in records and with mixed-case check
digits in messages.
-/

namespace SwapPlan

structure Address where
  bytes : Bytes
  length_bytes : bytes.length = 20
deriving DecidableEq

namespace Address

/-- The first twenty bytes of a string, with zeros where it is shorter. -/
def ofLeading (bs : Bytes) : Address :=
  ⟨(bs ++ Bytes.zeros 20).take 20, by simp⟩

/-- A string of exactly twenty bytes as an address. -/
def ofBytes? (bs : Bytes) : Option Address :=
  if h : bs.length = 20 then some ⟨bs, h⟩ else none

/-- The address that a number below `2 ^ 160` denotes. -/
def ofNat (n : Nat) : Address := ⟨Bytes.ofNat 20 n, by simp⟩

def zero : Address := ofNat 0

def toHex (a : Address) : String := Hex.encode a.bytes

/-- The digits of an address, a letter in upper case where the digit of the hash of the
lower-case digits at its place is eight or more. -/
def checksummed (a : Address) : String :=
  let plain := Hex.digits a.bytes
  let marks := Hex.digits (Keccak.hash (plain.map fun c => UInt8.ofNat c.toNat))
  let cased := plain.zipWith (fun c m => if (Hex.value? m).getD 0 ≥ 8 then c.toUpper else c) marks
  String.ofList ('0' :: 'x' :: cased)

@[ext] theorem ext {a b : Address} (h : a.bytes = b.bytes) : a = b := by
  cases a; cases b; simp_all

@[simp] theorem ofLeading_append (a : Address) (bs : Bytes) : ofLeading (a.bytes ++ bs) = a := by
  ext1
  simp [ofLeading, List.append_assoc, a.length_bytes]

@[simp] theorem ofBytes?_bytes (a : Address) : ofBytes? a.bytes = some a := by
  simp [ofBytes?, a.length_bytes]

end Address

end SwapPlan

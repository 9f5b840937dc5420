import SwapPlan.Address
import Mathlib.Algebra.GroupWithZero.Nat
import Mathlib.Data.List.Induction
import Mathlib.Tactic.Lemma

/-!
Byte strings as numbers and as addresses. A string of a fixed length and the number that it spells
determine each other, and any twenty bytes are an address.
-/

namespace SwapPlan

namespace Bytes

lemma toNat_append_singleton (bs : Bytes) (b : UInt8) :
    toNat (bs ++ [b]) = 256 * toNat bs + b.toNat := by
  simp [toNat]

lemma toNat_lt (bs : Bytes) : toNat bs < 256 ^ bs.length := by
  induction bs using List.reverseRecOn with
  | nil => simp [toNat]
  | append_singleton bs b ih =>
      have hb := b.toNat_lt
      rw [toNat_append_singleton, List.length_append, List.length_singleton, Nat.pow_succ]
      omega

lemma toNat_ofNat {w n : Nat} (h : n < 256 ^ w) : toNat (ofNat w n) = n := by
  induction w generalizing n with
  | zero =>
      obtain rfl : n = 0 := by simpa using h
      rfl
  | succ w ih =>
      have hdiv : n / 256 < 256 ^ w := by
        rw [Nat.pow_succ] at h
        omega
      rw [ofNat, toNat_append_singleton, ih hdiv, UInt8.toNat_ofNat']
      omega

lemma ofNat_toNat (bs : Bytes) : ofNat bs.length (toNat bs) = bs := by
  induction bs using List.reverseRecOn with
  | nil => rfl
  | append_singleton bs b ih =>
      have hb := b.toNat_lt
      have hdiv : (256 * toNat bs + b.toNat) / 256 = toNat bs := by omega
      have hlast : UInt8.ofNat (256 * toNat bs + b.toNat) = b := by
        rw [← UInt8.toNat_inj, UInt8.toNat_ofNat']
        omega
      rw [toNat_append_singleton, List.length_append, List.length_singleton, ofNat, hdiv, ih,
        hlast]

end Bytes

namespace Address

lemma bytes_ofLeading {bs : Bytes} (h : 20 ≤ bs.length) : (ofLeading bs).bytes = bs.take 20 :=
  List.take_append_of_le_length h

lemma drop_add {bs rest : Bytes} {place : Nat} {a : Address}
    (h : bs.drop place = a.bytes ++ rest) : bs.drop (place + 20) = rest := by
  rw [← List.drop_drop, h, ← a.length_bytes, List.drop_left]

/-- Twenty bytes or more begin with an address. -/
lemma exists_append (bs : Bytes) (h : 20 ≤ bs.length) :
    ∃ (a : Address) (rest : Bytes), bs = a.bytes ++ rest ∧ bs.length = 20 + rest.length := by
  refine ⟨ofLeading bs, bs.drop 20, ?_, ?_⟩
  · rw [bytes_ofLeading h, List.take_append_drop]
  · rw [List.length_drop]
    omega

lemma ofBytes?_eq_some {bs : Bytes} {a : Address} : ofBytes? bs = some a ↔ a.bytes = bs := by
  constructor
  · intro h
    unfold ofBytes? at h
    split at h
    · obtain rfl := Option.some.inj h
      rfl
    · simp at h
  · rintro rfl
    exact ofBytes?_bytes a

end Address

end SwapPlan

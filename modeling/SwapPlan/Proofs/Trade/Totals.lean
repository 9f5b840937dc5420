import SwapPlan.Trade
import SwapPlan.Proofs.Amount

/-!
What every trade keeps to: all its swaps are between the same two currencies, and its totals are
the exact sums of their amounts.
-/

namespace SwapPlan

namespace Token

lemma address_eq_of_same {a b : Token} (h : a.same b = true) : a.address = b.address := by
  simp only [same, decide_eq_true_eq] at h
  exact h.2

end Token

namespace Currency

/-- The same kind of currency stands under the same address. -/
lemma of_same {a b : Currency} (h : a.same b = true) :
    a.address = b.address ∧ a.isNative = b.isNative := by
  cases a <;> cases b <;> simp only [same, Bool.and_eq_true, Bool.false_eq_true] at h
  · exact ⟨Token.address_eq_of_same h.2, rfl⟩
  · exact ⟨Token.address_eq_of_same h, rfl⟩
  · rw [Vault.same, Bool.and_eq_true] at h
    exact ⟨Token.address_eq_of_same h.1, rfl⟩

end Currency

namespace Trade

variable {input output : Currency} {swaps : List TradeSwap}

/-- What the inputs of some swaps come to. -/
def totalIn (swaps : List TradeSwap) : Nat := (swaps.map fun s => s.inputAmount.toNat).sum

/-- What the outputs of some swaps come to. -/
def totalOut (swaps : List TradeSwap) : Nat := (swaps.map fun s => s.outputAmount.toNat).sum

lemma totalIn_cons (s : TradeSwap) (swaps : List TradeSwap) :
    totalIn (s :: swaps) = s.inputAmount.toNat + totalIn swaps := by simp [totalIn]

lemma totalOut_cons (s : TradeSwap) (swaps : List TradeSwap) :
    totalOut (s :: swaps) = s.outputAmount.toNat + totalOut swaps := by simp [totalOut]

lemma of_fault? {idx : Nat} {a b : Amount} (h : fault? input output idx a b swaps = none) :
    a.toNat + totalIn swaps < 2 ^ 256 ∧ b.toNat + totalOut swaps < 2 ^ 256 ∧
      ∀ s ∈ swaps, s.route.input.same input = true ∧ s.route.output.same output = true := by
  induction swaps generalizing idx a b with
  | nil => exact ⟨a.isLt, b.isLt, fun s hs => absurd hs List.not_mem_nil⟩
  | cons s swaps ih =>
      unfold fault? at h
      split at h
      · simp at h
      · simp at h
      · rename_i a' b' ha hb
        split at h
        · simp at h
        · rename_i hin
          split at h
          · simp at h
          · rename_i hout
            obtain ⟨hlt, hlt', hsame⟩ := ih h
            rw [Amount.add?_eq_some_iff] at ha hb
            rw [totalIn_cons, totalOut_cons]
            refine ⟨by omega, by omega, fun s' hs' => ?_⟩
            rcases List.mem_cons.mp hs' with rfl | hs'
            · exact ⟨by simpa using hin, by simpa using hout⟩
            · exact hsame s' hs'

variable (t : Trade)

lemma same_ends {s : TradeSwap} (hs : s ∈ t.swaps) :
    s.route.input.same t.input = true ∧ s.route.output.same t.output = true :=
  (of_fault? t.sound).2.2 s hs

lemma input_address {s : TradeSwap} (hs : s ∈ t.swaps) :
    s.route.input.address = t.input.address := (Currency.of_same (t.same_ends hs).1).1

lemma output_address {s : TradeSwap} (hs : s ∈ t.swaps) :
    s.route.output.address = t.output.address := (Currency.of_same (t.same_ends hs).2).1

/-- **The input of a trade is the exact sum of its swaps' inputs.** -/
theorem toNat_inputAmount : t.inputAmount.toNat = totalIn t.swaps := by
  have hlt := (of_fault? t.sound).1
  rw [Amount.toNat_zero, Nat.zero_add] at hlt
  have hsum : ((t.swaps.map TradeSwap.inputAmount).map BitVec.toNat).sum = totalIn t.swaps := by
    rw [List.map_map]
    rfl
  rw [inputAmount, Amount.toNat_sumCapped, hsum]
  rw [hsum]
  exact hlt

/-- **The output of a trade is the exact sum of its swaps' outputs.** -/
theorem toNat_outputAmount : t.outputAmount.toNat = totalOut t.swaps := by
  have hlt := (of_fault? t.sound).2.1
  rw [Amount.toNat_zero, Nat.zero_add] at hlt
  have hsum : ((t.swaps.map TradeSwap.outputAmount).map BitVec.toNat).sum =
      totalOut t.swaps := by
    rw [List.map_map]
    rfl
  rw [outputAmount, Amount.toNat_sumCapped, hsum]
  rw [hsum]
  exact hlt

end Trade

end SwapPlan

import SwapPlan.Proofs.Trade.Totals
import Mathlib.Algebra.Order.BigOperators.Group.List
import Mathlib.Algebra.Order.Ring.Nat

/-!
What the swaps of a trade may spend and have to deliver, beside what the whole trade may and has to.
Slippage is rounded down for each swap and for their sum, so the parts come out of the whole, and
they leave less of it than one for each swap.
-/

namespace SwapPlan.Trade

variable {t : Trade} {p : Percent} {s : TradeSwap}

lemma inputAmount_le_totalIn {swaps : List TradeSwap} (hs : s ∈ swaps) :
    s.inputAmount.toNat ≤ totalIn swaps :=
  List.single_le_sum (fun _ _ => Nat.zero_le _) _
    (List.mem_map_of_mem (f := fun s => s.inputAmount.toNat) hs)

lemma outputAmount_le_totalOut {swaps : List TradeSwap} (hs : s ∈ swaps) :
    s.outputAmount.toNat ≤ totalOut swaps :=
  List.single_le_sum (fun _ _ => Nat.zero_le _) _
    (List.mem_map_of_mem (f := fun s => s.outputAmount.toNat) hs)

lemma exists_maximumIn (ht : t.tradeType = .exactOutput) :
    (∃ most, t.maximumIn p = .ok most) ↔
      p.denominator.toNat + p.numerator.toNat < 2 ^ 256 ∧
        totalIn t.swaps * (p.denominator.toNat + p.numerator.toNat) < 2 ^ 256 := by
  simp only [maximumIn, ht, Percent.exists_premium, toNat_inputAmount]

lemma exists_minimumOut (ht : t.tradeType = .exactInput) :
    (∃ least, t.minimumOut p = .ok least) ↔
      p.denominator.toNat + p.numerator.toNat < 2 ^ 256 ∧
        totalOut t.swaps * p.denominator.toNat < 2 ^ 256 := by
  simp only [minimumOut, ht, Percent.exists_discount, toNat_outputAmount]

/-- Where the whole input can be raised, that of each swap can. -/
lemma exists_maximumIn_of_mem {most : Amount} (ht : t.tradeType = .exactOutput)
    (h : t.maximumIn p = .ok most) (hs : s ∈ t.swaps) :
    ∃ m, s.maximumIn t.tradeType p = .ok m := by
  obtain ⟨hwhole, hscaled⟩ := (exists_maximumIn ht).mp ⟨most, h⟩
  rw [ht]
  exact Percent.exists_premium.mpr ⟨hwhole, Nat.lt_of_le_of_lt
    (Nat.mul_le_mul_right _ (inputAmount_le_totalIn hs)) hscaled⟩

/-- Where the whole output can be lowered, that of each swap can. -/
lemma exists_minimumOut_of_mem {least : Amount} (ht : t.tradeType = .exactInput)
    (h : t.minimumOut p = .ok least) (hs : s ∈ t.swaps) :
    ∃ d, s.minimumOut t.tradeType p = .ok d := by
  obtain ⟨hwhole, hscaled⟩ := (exists_minimumOut ht).mp ⟨least, h⟩
  rw [ht]
  exact Percent.exists_discount.mpr ⟨hwhole, Nat.lt_of_le_of_lt
    (Nat.mul_le_mul_right _ (outputAmount_le_totalOut hs)) hscaled⟩

/-- Shares of the swaps that are scaled and rounded down, beside the same share of the whole. -/
lemma exists_shares {share : TradeSwap → Except Error Amount} {f : TradeSwap → Nat} {k d : Nat}
    {swaps : List TradeSwap} (hd : 0 < d) (hne : swaps ≠ [])
    (hexists : ∀ s ∈ swaps, ∃ a, share s = .ok a)
    (hvalue : ∀ s a, share s = .ok a → a.toNat = f s * k / d) :
    ∃ as, List.Forall₂ (fun s a => share s = .ok a) swaps as ∧
      (as.map BitVec.toNat).sum ≤ (swaps.map f).sum * k / d ∧
      (swaps.map f).sum * k / d < (as.map BitVec.toNat).sum + swaps.length := by
  obtain ⟨as, has⟩ := exists_mapM.mpr hexists
  rw [mapM_eq_ok] at has
  have hshares : as.map BitVec.toNat = (swaps.map f).map fun n => n * k / d := by
    rw [List.map_map]
    exact (map_congr_of_forall₂ has fun s a ha => (hvalue s a ha).symm).symm
  have hlt := Percent.mul_div_sum_lt (k := k) hd (List.map_eq_nil_iff.not.mpr hne : swaps.map f ≠ [])
  rw [List.length_map] at hlt
  exact ⟨as, has, hshares ▸ Percent.sum_mul_div_le k d _, hshares ▸ hlt⟩

/-- **The budgets of the swaps fit the whole trade.** Totals are exact sums. What the swaps may
spend at most adds up to no more than what the trade takes in, and what they have to deliver at
least to no more than the minimum of the trade; less than one for each swap gets lost. -/
theorem budgets_fit (t : Trade) (p : Percent) :
    t.inputAmount.toNat = totalIn t.swaps ∧ t.outputAmount.toNat = totalOut t.swaps ∧
    (t.tradeType = .exactOutput → ∀ most, t.maximumIn p = .ok most → ∃ ms,
      List.Forall₂ (fun s m => s.maximumIn t.tradeType p = .ok m ∧
        s.inputAmount.toNat ≤ m.toNat) t.swaps ms ∧
      (ms.map BitVec.toNat).sum ≤ most.toNat ∧
      most.toNat < (ms.map BitVec.toNat).sum + t.swaps.length) ∧
    (t.tradeType = .exactInput → ∀ least, t.minimumOut p = .ok least → ∃ ds,
      List.Forall₂ (fun s d => s.minimumOut t.tradeType p = .ok d ∧
        d.toNat ≤ s.outputAmount.toNat) t.swaps ds ∧
      (ds.map BitVec.toNat).sum ≤ least.toNat ∧
      least.toNat < (ds.map BitVec.toNat).sum + t.swaps.length) := by
  refine ⟨t.toNat_inputAmount, t.toNat_outputAmount, fun ht most hmost => ?_,
    fun ht least hleast => ?_⟩
  · obtain ⟨ms, hms, hle, hlt⟩ := exists_shares (f := fun s => s.inputAmount.toNat)
      p.denominator_pos (List.cons_ne_nil t.first t.rest)
      (fun s hs => exists_maximumIn_of_mem ht hmost hs)
      (fun s m hm => by rw [ht] at hm; exact Percent.toNat_premium hm)
    rw [maximumIn, ht] at hmost
    rw [Percent.toNat_premium hmost, toNat_inputAmount]
    refine ⟨ms, hms.imp fun s m hm => ⟨hm, ?_⟩, hle, hlt⟩
    rw [ht] at hm
    rw [Percent.toNat_premium hm]
    exact p.le_raise _
  · have hpos : 0 < p.denominator.toNat + p.numerator.toNat := Nat.add_pos_left p.denominator_pos _
    obtain ⟨ds, hds, hle, hlt⟩ := exists_shares (f := fun s => s.outputAmount.toNat)
      hpos (List.cons_ne_nil t.first t.rest)
      (fun s hs => exists_minimumOut_of_mem ht hleast hs)
      (fun s d hd => by rw [ht] at hd; exact (Percent.discount_eq_ok.mp hd).2)
    rw [minimumOut, ht] at hleast
    rw [(Percent.discount_eq_ok.mp hleast).2, toNat_outputAmount]
    refine ⟨ds, hds.imp fun s d hd => ⟨hd, ?_⟩, hle, hlt⟩
    rw [ht] at hd
    rw [(Percent.discount_eq_ok.mp hd).2]
    exact p.lower_le _

/-! ### Two swaps of five -/

namespace Sample

def token (n : Nat) : Token := ⟨1, .ofNat n, 18, none⟩

def route : PoolRoute where
  protocol := .v2
  path := [.token (token 1), .token (token 2)]
  pools := [⟨.token (token 1), .token (token 2), .v2 0 0⟩]
  sound := by decide

def trade (tradeType : TradeType) : Trade where
  tradeType
  first := ⟨.pooled route, 5, 5, none⟩
  rest := [⟨.pooled route, 5, 5, none⟩]
  sound := by decide

def tenth : Percent := ⟨1, 10, by decide, by decide⟩

/-- Of eleven that come in, the swaps may spend ten; of nine that are due, they owe eight. -/
theorem shares_of_tenth :
    (∃ ms, List.Forall₂ (fun s m => s.maximumIn .exactOutput tenth = .ok m ∧
        s.inputAmount.toNat ≤ m.toNat) (trade .exactOutput).swaps ms ∧
      (ms.map BitVec.toNat).sum ≤ 11 ∧ 11 < (ms.map BitVec.toNat).sum + 2) ∧
    ∃ ds, List.Forall₂ (fun s d => s.minimumOut .exactInput tenth = .ok d ∧
        d.toNat ≤ s.outputAmount.toNat) (trade .exactInput).swaps ds ∧
      (ds.map BitVec.toNat).sum ≤ 9 ∧ 9 < (ds.map BitVec.toNat).sum + 2 :=
  ⟨(budgets_fit (trade .exactOutput) tenth).2.2.1 rfl 11 (eq_ok_of_toOption (by decide)),
    (budgets_fit (trade .exactInput) tenth).2.2.2 rfl 9 (eq_ok_of_toOption (by decide))⟩

end Sample

end SwapPlan.Trade

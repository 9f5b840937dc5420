import SwapPlan.Slippage
import SwapPlan.Proofs.Outcome
import Mathlib.Algebra.GroupWithZero.Nat

/-!
Amounts as natural numbers. Sums that fit are exact, and what slippage and the rounding buffer make
of an amount is one division, rounded down. It exists where the product before the division fits.
-/

namespace SwapPlan

namespace Amount

@[simp] lemma toNat_zero : (0 : Amount).toNat = 0 := rfl

lemma exists_toNat {n : Nat} (h : n < 2 ^ 256) : ∃ a : Amount, a.toNat = n :=
  ⟨BitVec.ofNatLT n h, BitVec.toNat_ofNatLT ..⟩

/-- A sum is exact up to the largest amount, where it stays. -/
lemma toNat_addCapped_eq_min (a b : Amount) :
    (addCapped a b).toNat = min (a.toNat + b.toNat) (2 ^ 256 - 1) := by
  cases hadd : add? a b with
  | none =>
      have hge := ofNat?_eq_none_iff.mp hadd
      simp only [Nat.pow_eq] at hge
      rw [addCapped, hadd, Option.getD_none, BitVec.toNat_allOnes]
      omega
  | some c =>
      have hc := add?_eq_some_iff.mp hadd
      have hlt := c.isLt
      rw [addCapped, hadd, Option.getD_some]
      omega

lemma toNat_sumCapped_eq_min (as : List Amount) :
    (sumCapped as).toNat = min (as.map BitVec.toNat).sum (2 ^ 256 - 1) := by
  have hfold : ∀ (as : List Amount) (a : Amount),
      (as.foldl addCapped a).toNat = min (a.toNat + (as.map BitVec.toNat).sum) (2 ^ 256 - 1) := by
    intro as
    induction as with
    | nil =>
        intro a
        have hlt := a.isLt
        rw [List.foldl_nil, List.map_nil, List.sum_nil]
        omega
    | cons b as ih =>
        intro a
        rw [List.foldl_cons, ih, toNat_addCapped_eq_min, List.map_cons, List.sum_cons]
        omega
  rw [sumCapped, hfold as 0, toNat_zero, Nat.zero_add]

lemma toNat_sumCapped {as : List Amount} (h : (as.map BitVec.toNat).sum < 2 ^ 256) :
    (sumCapped as).toNat = (as.map BitVec.toNat).sum := by
  rw [toNat_sumCapped_eq_min]
  omega

end Amount

namespace Percent

variable {p : Percent} {a b : Amount}

lemma scale_eq_ok {factor : Amount} :
    scale a factor = .ok b ↔ b.toNat = a.toNat * factor.toNat := by
  rw [← Amount.mul?_eq_some_iff, scale]
  cases Amount.mul? a factor <;> simp

lemma onePlus_eq_ok : p.onePlus = .ok a ↔ a.toNat = p.denominator.toNat + p.numerator.toNat := by
  rw [← Amount.add?_eq_some_iff, onePlus]
  cases Amount.add? p.denominator p.numerator <;> simp

/-- An amount at a premium, rounded down. -/
def raise (p : Percent) (n : Nat) : Nat :=
  n * (p.denominator.toNat + p.numerator.toNat) / p.denominator.toNat

/-- An amount at a discount, rounded down. -/
def lower (p : Percent) (n : Nat) : Nat :=
  n * p.denominator.toNat / (p.denominator.toNat + p.numerator.toNat)

lemma premium_eq_ok : p.premium a = .ok b ↔
    (p.denominator.toNat + p.numerator.toNat < 2 ^ 256 ∧
      a.toNat * (p.denominator.toNat + p.numerator.toNat) < 2 ^ 256) ∧
        b.toNat = p.raise a.toNat := by
  simp only [premium, bind_eq_ok, pure_eq_ok, onePlus_eq_ok, scale_eq_ok]
  constructor
  · rintro ⟨whole, hwhole, scaled, hscaled, rfl⟩
    rw [hwhole] at hscaled
    exact ⟨⟨hwhole ▸ whole.isLt, hscaled ▸ scaled.isLt⟩,
      by rw [BitVec.toNat_udiv, hscaled, raise]⟩
  · rintro ⟨⟨hwhole, hscaled⟩, hb⟩
    obtain ⟨whole, hwhole⟩ := Amount.exists_toNat hwhole
    obtain ⟨scaled, hscaled⟩ := Amount.exists_toNat hscaled
    refine ⟨whole, hwhole, scaled, by rw [hscaled, hwhole], BitVec.eq_of_toNat_eq ?_⟩
    rw [BitVec.toNat_udiv, hscaled, hb, raise]

lemma discount_eq_ok : p.discount a = .ok b ↔
    (p.denominator.toNat + p.numerator.toNat < 2 ^ 256 ∧
      a.toNat * p.denominator.toNat < 2 ^ 256) ∧ b.toNat = p.lower a.toNat := by
  simp only [discount, bind_eq_ok, pure_eq_ok, onePlus_eq_ok, scale_eq_ok]
  constructor
  · rintro ⟨scaled, hscaled, whole, hwhole, rfl⟩
    exact ⟨⟨hwhole ▸ whole.isLt, hscaled ▸ scaled.isLt⟩,
      by rw [BitVec.toNat_udiv, hscaled, hwhole, lower]⟩
  · rintro ⟨⟨hwhole, hscaled⟩, hb⟩
    obtain ⟨whole, hwhole⟩ := Amount.exists_toNat hwhole
    obtain ⟨scaled, hscaled⟩ := Amount.exists_toNat hscaled
    refine ⟨scaled, hscaled, whole, hwhole, BitVec.eq_of_toNat_eq ?_⟩
    rw [BitVec.toNat_udiv, hscaled, hwhole, hb, lower]

lemma exists_premium : (∃ b, p.premium a = .ok b) ↔
    p.denominator.toNat + p.numerator.toNat < 2 ^ 256 ∧
      a.toNat * (p.denominator.toNat + p.numerator.toNat) < 2 ^ 256 := by
  simp only [premium_eq_ok, exists_and_left, and_iff_left_iff_imp]
  exact fun h => Amount.exists_toNat (Nat.lt_of_le_of_lt (Nat.div_le_self _ _) h.2)

lemma exists_discount : (∃ b, p.discount a = .ok b) ↔
    p.denominator.toNat + p.numerator.toNat < 2 ^ 256 ∧
      a.toNat * p.denominator.toNat < 2 ^ 256 := by
  simp only [discount_eq_ok, exists_and_left, and_iff_left_iff_imp]
  exact fun h => Amount.exists_toNat (Nat.lt_of_le_of_lt (Nat.div_le_self _ _) h.2)

lemma toNat_premium (h : p.premium a = .ok b) : b.toNat = p.raise a.toNat :=
  (premium_eq_ok.mp h).2

lemma le_raise (p : Percent) (n : Nat) : n ≤ p.raise n := by
  rw [raise, Nat.le_div_iff_mul_le p.denominator_pos]
  exact Nat.mul_le_mul_left _ (Nat.le_add_right _ _)

lemma lower_le (p : Percent) (n : Nat) : p.lower n ≤ n := by
  have hpos := p.denominator_pos
  rw [lower]
  refine Nat.div_le_of_le_mul ?_
  rw [Nat.mul_comm]
  exact Nat.mul_le_mul_right _ (Nat.le_add_right _ _)

/-! #### Parts and the whole -/

/-- Parts that are scaled and rounded down are no more than the whole. -/
lemma sum_mul_div_le (k d : Nat) (ns : List Nat) :
    (ns.map fun n => n * k / d).sum ≤ ns.sum * k / d := by
  induction ns with
  | nil => simp
  | cons n ns ih =>
      rw [List.map_cons, List.sum_cons, List.sum_cons, Nat.add_mul]
      calc n * k / d + (ns.map fun n => n * k / d).sum ≤ n * k / d + ns.sum * k / d :=
            Nat.add_le_add_left ih _
        _ ≤ (n * k + ns.sum * k) / d := Nat.div_add_div_le_add_div

/-- Each part that is scaled and rounded down lacks less than one. -/
lemma mul_div_sum_lt {k d : Nat} (hd : 0 < d) {ns : List Nat} (hne : ns ≠ []) :
    ns.sum * k / d < (ns.map fun n => n * k / d).sum + ns.length := by
  have hmul (ns : List Nat) :
      ns.sum * k + ns.length ≤ d * ((ns.map fun n => n * k / d).sum + ns.length) := by
    induction ns with
    | nil => simp
    | cons n ns ih =>
        have hn : n * k + 1 ≤ d * (n * k / d + 1) := Nat.lt_mul_div_succ (n * k) hd
        rw [Nat.mul_add] at ih hn
        simp only [List.map_cons, List.sum_cons, List.length_cons, Nat.mul_add, Nat.add_mul]
        omega
  refine Nat.div_lt_of_lt_mul (Nat.lt_of_lt_of_le ?_ (hmul ns))
  exact Nat.lt_add_of_pos_right (List.length_pos_of_ne_nil hne)

/-- Parts at a premium are no more than the whole at one. -/
lemma sum_raise_le (p : Percent) (ns : List Nat) : (ns.map p.raise).sum ≤ p.raise ns.sum :=
  sum_mul_div_le _ _ ns

end Percent

namespace RoundingBuffer

variable {b : RoundingBuffer} {a c : Amount}

/-- An amount less the buffer's margin. -/
def less (b : RoundingBuffer) (n : Nat) : Nat := n - n * b.bps.toNat / Defaults.wholeBps

lemma exists_apply :
    (∃ c, b.apply a = .ok c) ↔ (b.bps ≠ 0 → a.toNat * b.bps.toNat < 2 ^ 256) := by
  have hbps : (BitVec.ofNat 256 b.bps.toNat).toNat = b.bps.toNat := by
    rw [BitVec.toNat_ofNat, Nat.mod_eq_of_lt (Nat.lt_trans b.bps_lt (by decide))]
  unfold apply
  split_ifs with hzero
  · simp [hzero]
  · simp only [bind_eq_ok, pure_eq_ok, Percent.scale_eq_ok, hbps]
    constructor
    · rintro ⟨_, scaled, hscaled, -⟩ -
      exact hscaled ▸ scaled.isLt
    · intro h
      obtain ⟨scaled, hscaled⟩ := Amount.exists_toNat (h hzero)
      exact ⟨_, scaled, hscaled, rfl⟩

lemma toNat_apply (h : b.apply a = .ok c) : c.toNat = b.less a.toNat := by
  unfold apply at h
  split at h
  · rename_i hbps
    obtain rfl := Except.ok.inj h
    simp [less, hbps]
  · simp only [bind_eq_ok, pure_eq_ok] at h
    obtain ⟨scaled, hscaled, rfl⟩ := h
    have hbps : b.bps.toNat < 2 ^ 256 := Nat.lt_trans b.bps_lt (by decide)
    have hscaled' : scaled.toNat = a.toNat * b.bps.toNat := by
      rw [Percent.scale_eq_ok.mp hscaled, BitVec.toNat_ofNat, Nat.mod_eq_of_lt hbps]
    have hwhole : (BitVec.ofNat 256 Defaults.wholeBps).toNat = Defaults.wholeBps := by decide
    have hle : scaled / BitVec.ofNat 256 Defaults.wholeBps ≤ a := by
      rw [BitVec.le_def, BitVec.toNat_udiv, hscaled', hwhole]
      refine Nat.div_le_of_le_mul ?_
      rw [Nat.mul_comm]
      exact Nat.mul_le_mul_right _ (Nat.le_of_lt b.bps_lt)
    rw [BitVec.toNat_sub_of_le hle, BitVec.toNat_udiv, hscaled', hwhole, less]

lemma less_le (b : RoundingBuffer) (n : Nat) : b.less n ≤ n := Nat.sub_le _ _

end RoundingBuffer

end SwapPlan

import SwapPlan.Proofs.Amount

/-!
Slippage and the rounding buffer, over all amounts. A premium and a discount are the exact ratio,
rounded down, and undo each other up to what the two roundings lose: at most one where the premium
came first, and at most two where the discount did. The buffer never takes the whole of an amount.
-/

namespace SwapPlan

namespace Percent

variable {p : Percent} {n m : Nat} {a b : Amount}

lemma ofRatio_eq_ok {n d : Amount} :
    ofRatio n d = .ok p ↔ p.numerator = n ∧ p.denominator = d := by
  unfold ofRatio
  constructor
  · intro h
    split_ifs at h
    obtain rfl := Except.ok.inj h
    exact ⟨rfl, rfl⟩
  · rintro ⟨rfl, rfl⟩
    have hpos := p.denominator_pos
    have hle := p.numerator_le
    rw [dif_neg (by omega), dif_neg (by omega)]

/-! ### There and back -/

/-- Scaled by `w / d` and back, rounded down both times, a number loses less than one and `d / w`
together. -/
lemma scaled_back {w d : Nat} (hw : 0 < w) (hd : 0 < d) (n : Nat) :
    n * w / d * d / w ≤ n ∧ n * w < n * w / d * d / w * w + w + d := by
  refine ⟨Nat.le_of_mul_le_mul_right ?_ hw, ?_⟩
  · calc n * w / d * d / w * w ≤ n * w / d * d := Nat.div_mul_le_self _ _
      _ ≤ n * w := Nat.div_mul_le_self _ _
  · calc n * w < n * w / d * d + d := Nat.lt_div_mul_add hd
      _ < n * w / d * d / w * w + w + d := Nat.add_lt_add_right (Nat.lt_div_mul_add hw) d

lemma whole_pos (p : Percent) : 0 < p.denominator.toNat + p.numerator.toNat :=
  Nat.add_pos_left p.denominator_pos _

/-- What a premium put on, a discount takes off, and at most one besides. -/
lemma lower_raise (p : Percent) (n : Nat) :
    p.lower (p.raise n) ≤ n ∧ n ≤ p.lower (p.raise n) + 1 := by
  obtain ⟨hle, hlt⟩ := scaled_back p.whole_pos p.denominator_pos n
  refine ⟨hle, Nat.le_of_lt_succ
    (Nat.lt_of_mul_lt_mul_right (a := p.denominator.toNat + p.numerator.toNat) ?_)⟩
  calc n * (p.denominator.toNat + p.numerator.toNat) <
        p.lower (p.raise n) * (p.denominator.toNat + p.numerator.toNat) +
          (p.denominator.toNat + p.numerator.toNat) + p.denominator.toNat := hlt
    _ ≤ (p.lower (p.raise n) + 2) * (p.denominator.toNat + p.numerator.toNat) := by
        rw [Nat.add_mul]
        omega

/-- What a discount took off, a premium puts on, less at most two, since one plus a ratio is at most
two. -/
lemma raise_lower (p : Percent) (n : Nat) :
    p.raise (p.lower n) ≤ n ∧ n ≤ p.raise (p.lower n) + 2 := by
  obtain ⟨hle, hlt⟩ := scaled_back p.denominator_pos p.whole_pos n
  have hratio := p.numerator_le
  refine ⟨hle, Nat.le_of_lt_succ (Nat.lt_of_mul_lt_mul_right (a := p.denominator.toNat) ?_)⟩
  calc n * p.denominator.toNat < p.raise (p.lower n) * p.denominator.toNat +
        p.denominator.toNat + (p.denominator.toNat + p.numerator.toNat) := hlt
    _ ≤ (p.raise (p.lower n) + 3) * p.denominator.toNat := by
        rw [Nat.add_mul]
        omega

lemma raise_mono (p : Percent) (h : n ≤ m) : p.raise n ≤ p.raise m :=
  Nat.div_le_div_right (Nat.mul_le_mul_right _ h)

lemma lower_mono (p : Percent) (h : n ≤ m) : p.lower n ≤ p.lower m :=
  Nat.div_le_div_right (Nat.mul_le_mul_right _ h)

/-! ### As amounts -/

lemma toNat_discount (h : p.discount a = .ok b) : b.toNat = p.lower a.toNat :=
  (discount_eq_ok.mp h).2

/-- An amount at a premium can be discounted again, since this undoes the division. -/
lemma exists_discount_of_premium (h : p.premium a = .ok b) :
    ∃ c, p.discount b = .ok c ∧ c.toNat ≤ a.toNat ∧ a.toNat ≤ c.toNat + 1 := by
  obtain ⟨⟨hwhole, hscaled⟩, hb⟩ := premium_eq_ok.mp h
  obtain ⟨c, hc⟩ := exists_discount.mpr
    ⟨hwhole, Nat.lt_of_le_of_lt (by rw [hb]; exact Nat.div_mul_le_self _ _) hscaled⟩
  refine ⟨c, hc, ?_⟩
  rw [toNat_discount hc, hb]
  exact p.lower_raise a.toNat

lemma exists_premium_of_discount (h : p.discount a = .ok b) :
    ∃ c, p.premium b = .ok c ∧ c.toNat ≤ a.toNat ∧ a.toNat ≤ c.toNat + 2 := by
  obtain ⟨⟨hwhole, hscaled⟩, hb⟩ := discount_eq_ok.mp h
  obtain ⟨c, hc⟩ := exists_premium.mpr
    ⟨hwhole, Nat.lt_of_le_of_lt (by rw [hb]; exact Nat.div_mul_le_self _ _) hscaled⟩
  refine ⟨c, hc, ?_⟩
  rw [toNat_premium hc, hb]
  exact p.raise_lower a.toNat

/-! ### What a tolerance does to all amounts -/

/-- Amounts scaled by one plus `n / d`, up and down. Nothing but the width of an amount can fail,
and where the one direction has a result the other has one for it. -/
structure Scales (p : Percent) (n d : Amount) : Prop where
  premium_fails : ∀ a, (∃ e, p.premium a = .error e) ↔
    2 ^ 256 ≤ d.toNat + n.toNat ∨ 2 ^ 256 ≤ a.toNat * (d.toNat + n.toNat)
  premium_floor : ∀ a b, p.premium a = .ok b →
    b.toNat = a.toNat * (d.toNat + n.toNat) / d.toNat
  discount_fails : ∀ a, (∃ e, p.discount a = .error e) ↔
    2 ^ 256 ≤ a.toNat * d.toNat ∨ 2 ^ 256 ≤ d.toNat + n.toNat
  discount_floor : ∀ a b, p.discount a = .ok b →
    b.toNat = a.toNat * d.toNat / (d.toNat + n.toNat)
  premium_mono : ∀ a a' b b', p.premium a = .ok b → p.premium a' = .ok b' → a ≤ a' → b ≤ b'
  discount_mono : ∀ a a' b b', p.discount a = .ok b → p.discount a' = .ok b' → a ≤ a' → b ≤ b'
  le_premium : ∀ a b, p.premium a = .ok b → a ≤ b
  discount_le : ∀ a b, p.discount a = .ok b → b ≤ a
  discount_premium : ∀ a m, p.premium a = .ok m →
    ∃ b, p.discount m = .ok b ∧ (b = a ∨ b.toNat + 1 = a.toNat)
  premium_discount : ∀ a m, p.discount a = .ok m →
    ∃ b, p.premium m = .ok b ∧ b ≤ a ∧ a.toNat ≤ b.toNat + 2

lemma scales (p : Percent) : p.Scales p.numerator p.denominator where
  premium_fails a := by
    rw [exists_error_iff, exists_premium, not_and_or, Nat.not_lt, Nat.not_lt]
  premium_floor a b h := toNat_premium h
  discount_fails a := by
    rw [exists_error_iff, exists_discount, not_and_or, Nat.not_lt, Nat.not_lt, or_comm]
  discount_floor a b h := toNat_discount h
  premium_mono a a' b b' h h' hle := by
    rw [BitVec.le_def, toNat_premium h, toNat_premium h']
    exact p.raise_mono hle
  discount_mono a a' b b' h h' hle := by
    rw [BitVec.le_def, toNat_discount h, toNat_discount h']
    exact p.lower_mono hle
  le_premium a b h := by
    rw [BitVec.le_def, toNat_premium h]
    exact p.le_raise _
  discount_le a b h := by
    rw [BitVec.le_def, toNat_discount h]
    exact p.lower_le _
  discount_premium a m h := by
    obtain ⟨b, hb, hle, hlt⟩ := exists_discount_of_premium h
    refine ⟨b, hb, ?_⟩
    rcases Nat.eq_or_lt_of_le hle with heq | hless
    · exact .inl (BitVec.eq_of_toNat_eq heq)
    · exact .inr (by omega)
  premium_discount a m h := exists_premium_of_discount h

end Percent

namespace RoundingBuffer

variable {b : RoundingBuffer} {n m : Nat}

lemma ofBps_eq_ok {bps : UInt16} : ofBps bps = .ok b ↔ b.bps = bps := by
  unfold ofBps
  constructor
  · intro h
    split_ifs at h
    obtain rfl := Except.ok.inj h
    rfl
  · rintro rfl
    rw [dif_pos b.bps_lt]

/-! ### The margin of an amount -/

/-- What the buffer takes off an amount. -/
def margin (b : RoundingBuffer) (n : Nat) : Nat := n * b.bps.toNat / Defaults.wholeBps

/-- The margin is less than the amount, unless there is nothing to take it off. -/
lemma margin_lt (b : RoundingBuffer) (h : 0 < n) : b.margin n < n := by
  refine Nat.div_lt_of_lt_mul ?_
  rw [Nat.mul_comm]
  exact Nat.mul_lt_mul_of_pos_right b.bps_lt h

lemma margin_le (b : RoundingBuffer) (n : Nat) : b.margin n ≤ n := by
  rcases Nat.eq_zero_or_pos n with rfl | hn
  · simp [margin]
  · exact Nat.le_of_lt (b.margin_lt hn)

/-- The margin grows no faster than the amount. -/
lemma margin_add_le (b : RoundingBuffer) (n k : Nat) : b.margin (n + k) ≤ b.margin n + k := by
  rw [margin, Nat.div_le_iff_le_mul_add_pred (by decide)]
  have hn : n * b.bps.toNat < Defaults.wholeBps * (b.margin n + 1) :=
    Nat.lt_mul_div_succ _ (by decide)
  have hk : k * b.bps.toNat ≤ Defaults.wholeBps * k := by
    rw [Nat.mul_comm]
    exact Nat.mul_le_mul_right _ (Nat.le_of_lt b.bps_lt)
  rw [Nat.mul_succ] at hn
  rw [Nat.add_mul, Nat.mul_add]
  omega

lemma less_add_margin (b : RoundingBuffer) (n : Nat) : b.less n + b.margin n = n :=
  Nat.sub_add_cancel (b.margin_le n)

lemma less_mono (b : RoundingBuffer) (h : n ≤ m) : b.less n ≤ b.less m := by
  obtain ⟨k, rfl⟩ := Nat.exists_eq_add_of_le h
  have hn := b.less_add_margin n
  have hk := b.less_add_margin (n + k)
  have := b.margin_add_le n k
  omega

/-! ### What a buffer does to all amounts -/

/-- Amounts less `bps` in ten thousand. The margin is never more than the amount, so that their
difference is exact. -/
structure Shaves (b : RoundingBuffer) (bps : UInt16) : Prop where
  fails : ∀ a, (∃ e, b.apply a = .error e) ↔ bps ≠ 0 ∧ 2 ^ 256 ≤ a.toNat * bps.toNat
  exact : ∀ a c, b.apply a = .ok c →
    c.toNat + a.toNat * bps.toNat / Defaults.wholeBps = a.toNat
  mono : ∀ a a' c c', b.apply a = .ok c → b.apply a' = .ok c' → a ≤ a' → c ≤ c'
  le : ∀ a c, b.apply a = .ok c → c ≤ a
  pos : ∀ a c, b.apply a = .ok c → 0 < a → 0 < c

lemma shaves (b : RoundingBuffer) : b.Shaves b.bps where
  fails a := by
    rw [exists_error_iff, exists_apply, Classical.not_imp, Nat.not_lt]
  exact a c h := by
    rw [toNat_apply h]
    exact b.less_add_margin _
  mono a a' c c' h h' hle := by
    rw [BitVec.le_def, toNat_apply h, toNat_apply h']
    exact b.less_mono hle
  le a c h := by
    rw [BitVec.le_def, toNat_apply h]
    exact b.less_le _
  pos a c h hpos := by
    rw [BitVec.lt_def] at hpos ⊢
    have hlt := b.margin_lt hpos
    have hless := b.less_add_margin a.toNat
    rw [toNat_apply h]
    simp only [Amount.toNat_zero] at hpos ⊢
    omega

end RoundingBuffer

/-- **Slippage and the rounding buffer are exact up to one rounding each.** -/
theorem slippage_exact :
    (∀ n d p, Percent.ofRatio n d = .ok p → p.Scales n d) ∧
      ∀ bps b, RoundingBuffer.ofBps bps = .ok b → b.Shaves bps := by
  constructor
  · intro n d p h
    obtain ⟨rfl, rfl⟩ := Percent.ofRatio_eq_ok.mp h
    exact p.scales
  · intro bps b h
    obtain rfl := RoundingBuffer.ofBps_eq_ok.mp h
    exact b.shaves

/-! ### Three quarters, and five in ten thousand -/

namespace Percent.Sample

def threeQuarters : Percent := ⟨3, 4, by decide, by decide⟩

def fiveBps : RoundingBuffer := ⟨5, by decide⟩

/-- Both bounds are met: seventeen come back as fifteen, and one as nothing. -/
theorem seventeen_and_back :
    (∃ b, threeQuarters.premium 9 = .ok b ∧ b ≤ 17 ∧ 17 ≤ b.toNat + 2) ∧
      threeQuarters.premium 9 = .ok 15 ∧
      (∃ b, threeQuarters.discount 1 = .ok b ∧ (b = 1 ∨ b.toNat + 1 = 1)) ∧
      threeQuarters.discount 1 = .ok 0 ∧
      (∃ e, fiveBps.apply (BitVec.allOnes 256) = .error e) ∧
      ∀ c, fiveBps.apply 10000 = .ok c → c.toNat + 5 = 10000 := by
  obtain ⟨hpercent, hbuffer⟩ := slippage_exact
  have hscales := hpercent 3 4 threeQuarters (eq_ok_of_toOption (by decide))
  have hshaves := hbuffer 5 fiveBps (eq_ok_of_toOption (by decide))
  exact ⟨hscales.premium_discount 17 9 (eq_ok_of_toOption (by decide)),
    eq_ok_of_toOption (by decide),
    hscales.discount_premium 1 1 (eq_ok_of_toOption (by decide)),
    eq_ok_of_toOption (by decide),
    (hshaves.fails _).mpr ⟨by decide, by decide⟩,
    fun c h => hshaves.exact 10000 c h⟩

end Percent.Sample

end SwapPlan

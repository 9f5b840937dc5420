/-!
Unsigned amounts of 256 bits, with sums and products that are refused where they do not fit.
-/

namespace SwapPlan

abbrev Amount := BitVec 256

namespace Amount

/-- A number as an amount, if it is below `2 ^ 256`. -/
def ofNat? (n : Nat) : Option Amount :=
  if h : n < Nat.pow 2 256 then some (BitVec.ofNatLT n h) else none

def add? (a b : Amount) : Option Amount := ofNat? (a.toNat + b.toNat)

def mul? (a b : Amount) : Option Amount := ofNat? (a.toNat * b.toNat)

/-- The sum, capped at the largest amount. -/
def addCapped (a b : Amount) : Amount := (add? a b).getD (BitVec.allOnes 256)

/-- The sum of a list, capped at the largest amount. -/
def sumCapped (as : List Amount) : Amount := as.foldl addCapped 0

theorem ofNat?_eq_some_iff {n : Nat} {a : Amount} : ofNat? n = some a ↔ a.toNat = n := by
  unfold ofNat?
  split
  · rename_i h
    constructor
    · rintro h'
      cases h'; simp
    · rintro rfl
      simp
  · rename_i h
    constructor
    · simp
    · rintro rfl
      exact absurd a.isLt h

theorem ofNat?_eq_none_iff {n : Nat} : ofNat? n = none ↔ Nat.pow 2 256 ≤ n := by
  unfold ofNat?
  split
  · rename_i h
    simpa using h
  · rename_i h
    simpa using h

theorem add?_eq_some_iff {a b c : Amount} : add? a b = some c ↔ c.toNat = a.toNat + b.toNat :=
  ofNat?_eq_some_iff

theorem mul?_eq_some_iff {a b c : Amount} : mul? a b = some c ↔ c.toNat = a.toNat * b.toNat :=
  ofNat?_eq_some_iff

@[simp] theorem ofNat?_toNat (a : Amount) : ofNat? a.toNat = some a := by
  simp [ofNat?_eq_some_iff]

end Amount

end SwapPlan

import SwapPlan.Text.Number

/-!
Labels outside ASCII as small letters and digits: the characters in ASCII, and behind them, as
numbers of varying length, the distances between the places where the others belong.
-/

namespace SwapPlan.Url.Punycode

def digit (n : Nat) : Char := if n < 26 then Char.ofNat (97 + n) else Char.ofNat (22 + n)

/-- The value of a letter or digit, in lower case. -/
def value? (c : Char) : Option Nat :=
  if c.isLower then some (c.toNat - 97)
  else if c.isDigit then some (c.toNat - 22)
  else none

/-- How far a digit at place `k` counts before it ends its number. -/
def threshold (k bias : Nat) : Nat := min 26 (max 1 (k - bias))

theorem threshold_pos (k bias : Nat) : 1 ≤ threshold k bias := by
  unfold threshold; omega

theorem threshold_le (k bias : Nat) : threshold k bias ≤ 26 := by
  unfold threshold; omega

/-- The bias that keeps the digits of numbers like `delta` few. -/
def adapt (delta written : Nat) (first : Bool) : Nat :=
  let d := if first then delta / 700 else delta / 2
  reduce 0 (d + d / written)
where
  reduce (k delta : Nat) : Nat :=
    if delta > 455 then reduce (k + 36) (delta / 35) else k + 36 * delta / (delta + 38)
  termination_by delta
  decreasing_by omega

/-! ### Writing -/

/-- The digits of a number, least place first. -/
def digits (bias k n : Nat) : List Char :=
  let t := threshold k bias
  if n < t then [digit n]
  else digit (t + (n - t) % (36 - t)) :: digits bias (k + 36) ((n - t) / (36 - t))
termination_by n
decreasing_by
  have h₁ := threshold_pos k bias
  have h₂ := threshold_le k bias
  exact Nat.lt_of_le_of_lt (Nat.div_le_self _ _) (by omega)

structure Progress where
  out : List Char
  delta : Nat
  bias : Nat
  written : Nat

/-- Writes the places of the code point `n` among the characters that are not greater. -/
def put (basic n : Nat) (p : Progress) (c : Char) : Progress :=
  if c.toNat < n then { p with delta := p.delta + 1 }
  else if c.toNat = n then
    ⟨p.out ++ digits p.bias 36 p.delta, 0, adapt p.delta (p.written + 1) (p.written = basic),
      p.written + 1⟩
  else p

/-- Writes all code points in `above`, which ascend, from `n` on. -/
def putAll (cs : List Char) (basic : Nat) : (above : List Nat) → (n : Nat) → Progress → List Char
  | [], _, p => p.out
  | m :: above, n, p =>
    let p := { p with delta := p.delta + (m - n) * (p.written + 1) }
    let p := cs.foldl (put basic m) p
    putAll cs basic above (m + 1) { p with delta := p.delta + 1 }

/-- A label as ASCII characters. -/
def encode (cs : List Char) : List Char :=
  let basic := cs.filter fun c => c.toNat < 0x80
  let above := ((cs.filter fun c => c.toNat ≥ 0x80).map Char.toNat).mergeSort.eraseDups
  basic ++ (if basic = [] then [] else ['-']) ++
    putAll cs basic.length above 0x80 ⟨[], 0, 72, basic.length⟩

/-! ### Reading -/

/-- No number of an encoding reaches this bound. -/
def bound : Nat := 0x100000000

/-- The number ahead, added to `sum`, and what follows it. -/
def number? (bias : Nat) : (k weight sum : Nat) → List Char → Option (Nat × List Char)
  | _, _, _, [] => none
  | k, weight, sum, c :: cs => do
    let d ← value? c
    let sum := sum + d * weight
    let t := threshold k bias
    if sum ≥ bound then none
    else if d < t then some (sum, cs)
    else if weight * (36 - t) ≥ bound then none
    else number? bias (k + 36) (weight * (36 - t)) sum cs

theorem length_number? {bias k weight sum : Nat} {cs rest : List Char} {n : Nat}
    (h : number? bias k weight sum cs = some (n, rest)) : rest.length < cs.length := by
  induction cs generalizing k weight sum with
  | nil => simp [number?] at h
  | cons c cs ih =>
    simp only [number?, Option.bind_eq_bind, Option.bind_eq_some_iff] at h
    obtain ⟨d, -, h⟩ := h
    split at h
    · cases h
    · split at h
      · cases h; simp
      · split at h
        · cases h
        · have := ih h
          simp only [List.length_cons]
          omega

/-- Puts the characters whose numbers are ahead into `out`, from the place and the code point of
the one before. -/
def insertAll (out : List Char) (place n bias : Nat) (cs : List Char) : Option (List Char) :=
  if cs = [] then some out
  else
    match _h : number? bias 36 1 place cs with
    | none => none
    | some (sum, rest) =>
      let count := out.length + 1
      let n := n + sum / count
      match Text.char? n with
      | none => none
      | some c =>
        let i := sum % count
        insertAll (out.take i ++ c :: out.drop i) (i + 1) n
          (adapt (sum - place) count (place = 0)) rest
termination_by cs.length
decreasing_by exact length_number? (by assumption)

/-- The label that ASCII characters in lower case encode. -/
def decode? (cs : List Char) : Option (List Char) :=
  let basic := ((cs.reverse.dropWhile (· ≠ '-')).drop 1).reverse
  insertAll basic 0 0x80 72 (if basic = [] then cs else cs.drop (basic.length + 1))

end SwapPlan.Url.Punycode

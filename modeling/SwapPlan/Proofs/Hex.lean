import SwapPlan.Text.Numeral
import Mathlib.Algebra.Group.Nat.Even
import Mathlib.Tactic.Lemma

/-!
Hexadecimal texts that were written are read as what they were written from, bytes and numbers
alike, and bytes whatever the cases of their digits. Just the texts of digit pairs are read as
bytes.
-/

namespace SwapPlan

namespace Hex

variable {c : Char} {cs : List Char} {bs : Bytes} {n high low : Nat}

/-! ### Digits -/

/-- The digits in the order of their values, in upper or in lower case. -/
def alphabet (upper : Bool) : List Char :=
  (if upper then "0123456789ABCDEF" else "0123456789abcdef").toList

/-- `c` is the digit of the value `n`, in either case. -/
def Denotes (c : Char) (n : Nat) : Prop := ∃ upper, (alphabet upper)[n]? = some c

def IsDigit (c : Char) : Prop := ∃ n, Denotes c n

lemma length_alphabet : ∀ upper, (alphabet upper).length = 16 := by decide

lemma alphabet_digit : ∀ upper, ∀ n < 16, (alphabet upper)[n]? =
    some (if upper then (digit n).toUpper else digit n) := by decide

lemma value?_alphabet : ∀ upper, ∀ n < 16, (alphabet upper)[n]?.bind value? = some n := by
  decide

lemma Denotes.lt (h : Denotes c n) : n < 16 := by
  obtain ⟨upper, h⟩ := h
  rw [← length_alphabet upper]
  exact (List.getElem?_eq_some_iff.mp h).1

/-- No digit comes behind the last letter in lower case. -/
lemma toNat_le_of_value? (h : value? c = some n) : c.toNat ≤ 'f'.toNat := by
  unfold value? at h
  split_ifs at h with hfigure hlower hupper
  · exact Nat.le_trans hfigure.2 (by decide)
  · exact hlower.2
  · exact Nat.le_trans hupper.2 (by decide)

lemma alphabet_of_value? : ∀ k ≤ 'f'.toNat, ∀ n ∈ value? (Char.ofNat k),
    ∃ upper, (alphabet upper)[n]? = some (Char.ofNat k) := by decide

lemma value?_eq_some : value? c = some n ↔ Denotes c n := by
  constructor
  · intro h
    have hplace := alphabet_of_value? c.toNat (toNat_le_of_value? h) n
    rw [Char.ofNat_toNat] at hplace
    exact hplace h
  · intro h
    have hlt := h.lt
    obtain ⟨upper, h⟩ := h
    have hvalue := value?_alphabet upper n hlt
    rwa [h, Option.bind_some] at hvalue

/-! ### Digit pairs -/

/-- The text `cs` spells `bs`: two digits for each byte, the high half first. -/
inductive Spells : List Char → Bytes → Prop
  | nil : Spells [] []
  | cons {a b : Char} {high low : Nat} {byte : UInt8} {cs : List Char} {bs : Bytes}
      (ha : Denotes a high) (hb : Denotes b low) (hbyte : byte.toNat = 16 * high + low)
      (rest : Spells cs bs) : Spells (a :: b :: cs) (byte :: bs)

lemma toNat_pair (hhigh : high < 16) (hlow : low < 16) :
    (UInt8.ofNat (16 * high + low)).toNat = 16 * high + low :=
  UInt8.toNat_ofNat_of_lt' (show 16 * high + low < 256 by omega)

/-- Reading a text gives just the bytes that it spells. -/
lemma decodeDigits_eq_some : decodeDigits cs = some bs ↔ Spells cs bs := by
  constructor
  · intro h
    fun_induction decodeDigits cs generalizing bs with
    | case1 =>
        obtain rfl := Option.some.inj h
        exact .nil
    | case2 => cases h
    | case3 a b rest ih =>
        simp only [Option.bind_eq_bind, Option.bind_eq_some_iff, value?_eq_some,
          Option.some.injEq] at h
        obtain ⟨high, ha, low, hb, bs, hrest, rfl⟩ := h
        exact .cons ha hb (toNat_pair ha.lt hb.lt) (ih hrest)
  · intro h
    induction h with
    | nil => rfl
    | cons ha hb hbyte _ ih =>
        rw [decodeDigits, value?_eq_some.mpr ha, value?_eq_some.mpr hb, ih]
        simp only [Option.bind_eq_bind, Option.bind_some, ← hbyte, UInt8.ofNat_toNat]

lemma Spells.length (h : Spells cs bs) : cs.length = 2 * bs.length := by
  induction h with
  | nil => rfl
  | cons _ _ _ _ ih =>
      simp only [List.length_cons]
      omega

lemma Spells.isDigit (h : Spells cs bs) : ∀ c ∈ cs, IsDigit c := by
  induction h with
  | nil => exact List.forall_mem_nil _
  | cons ha hb _ _ ih =>
      exact List.forall_mem_cons.mpr ⟨⟨_, ha⟩, List.forall_mem_cons.mpr ⟨⟨_, hb⟩, ih⟩⟩

/-- An even number of digits, and nothing else, spells something. -/
lemma exists_spells : (∃ bs, Spells cs bs) ↔ Even cs.length ∧ ∀ c ∈ cs, IsDigit c := by
  constructor
  · rintro ⟨bs, h⟩
    exact ⟨⟨bs.length, by rw [h.length, Nat.two_mul]⟩, h.isDigit⟩
  · rintro ⟨heven, hdigits⟩
    induction cs using decodeDigits.induct with
    | case1 => exact ⟨[], .nil⟩
    | case2 a => exact absurd heven Nat.not_even_one
    | case3 a b rest ih =>
        simp only [List.forall_mem_cons] at hdigits
        obtain ⟨⟨high, ha⟩, ⟨low, hb⟩, hrest⟩ := hdigits
        rw [List.length_cons, List.length_cons, Nat.even_add_one, Nat.even_add_one,
          not_not] at heven
        obtain ⟨bs, hbs⟩ := ih heven hrest
        exact ⟨_, .cons ha hb (toNat_pair ha.lt hb.lt) hbs⟩

/-! ### Digits that were written -/

/-- Digits, the one at place `i` in upper case where `upper i` says so. -/
def cased (upper : Nat → Bool) (cs : List Char) : List Char :=
  cs.mapIdx fun i c => if upper i then c.toUpper else c

lemma cased_lower (cs : List Char) : cased (fun _ => false) cs = cs := by
  refine List.ext_getElem (by simp [cased]) fun i _ _ => ?_
  simp [cased]

lemma cased_digits_cons (upper : Nat → Bool) (byte : UInt8) (bs : Bytes) :
    cased upper (digits (byte :: bs)) =
      (if upper 0 then (digit (byte.toNat / 16)).toUpper else digit (byte.toNat / 16)) ::
      (if upper 1 then (digit (byte.toNat % 16)).toUpper else digit (byte.toNat % 16)) ::
      cased (fun i => upper (i + 2)) (digits bs) := by
  simp [cased, digits, List.mapIdx_cons]

lemma spells_cased (upper : Nat → Bool) (bs : Bytes) : Spells (cased upper (digits bs)) bs := by
  induction bs generalizing upper with
  | nil => exact .nil
  | cons byte bs ih =>
      have hbyte := byte.toNat_lt
      rw [cased_digits_cons]
      exact .cons ⟨_, alphabet_digit _ _ (by omega)⟩ ⟨_, alphabet_digit _ _ (by omega)⟩
        (by omega) (ih _)

/-- Whatever spells a byte string was written from it, in some choice of cases. -/
lemma Spells.exists_cased (h : Spells cs bs) : ∃ upper, cased upper (digits bs) = cs := by
  induction h with
  | nil => exact ⟨fun _ => false, rfl⟩
  | @cons a b high low byte cs bs ha hb hbyte _ ih =>
      have hhigh := ha.lt
      have hlow := hb.lt
      obtain ⟨first, ha⟩ := ha
      obtain ⟨second, hb⟩ := hb
      obtain ⟨rest, rfl⟩ := ih
      rw [alphabet_digit _ _ hhigh, Option.some.injEq] at ha
      rw [alphabet_digit _ _ hlow, Option.some.injEq] at hb
      refine ⟨fun | 0 => first | 1 => second | i + 2 => rest i, ?_⟩
      rw [cased_digits_cons, show byte.toNat / 16 = high by omega,
        show byte.toNat % 16 = low by omega, ← ha, ← hb]

lemma decodeDigits_digits (bs : Bytes) : decodeDigits (digits bs) = some bs := by
  rw [← cased_lower (digits bs)]
  exact decodeDigits_eq_some.mpr (spells_cased _ bs)

lemma decode_encode (bs : Bytes) : decode (encode bs) = some bs := by
  rw [decode, encode, String.toList_ofList]
  exact decodeDigits_digits bs

end Hex

namespace Text

open Nat (digitChar toDigits)

variable {base n : Nat} {cs ds : List Char}

lemma value?_digitChar : ∀ n < 16, Hex.value? (digitChar n) = some n := by decide

lemma digitChar_ne_underscore : ∀ n < 16, digitChar n ≠ '_' := by decide

namespace Numeral

/-- A digit is read by its value, unless it is a mark between digits. -/
lemma digits_cons {d : Char} (hd : d ≠ '_') : digits base n (d :: ds) =
    (Hex.value? d).bind fun v =>
      if v < base then digits base (base * n + v) ds else none := by
  rw [digits]
  · cases Hex.value? d <;> rfl
  · exact hd

lemma digits_append : digits base n (cs ++ ds) =
    (digits base n cs).bind fun m => digits base m ds := by
  induction cs generalizing n with
  | nil => rfl
  | cons c cs ih =>
      rw [List.cons_append]
      by_cases hc : c = '_'
      · rw [hc, digits, digits, ih]
      · rw [digits_cons hc, digits_cons hc]
        cases Hex.value? c with
        | none => rfl
        | some v =>
            simp only [Option.bind_some]
            split
            · exact ih
            · rfl

lemma digits_digitChar (hn : n < 16) (m : Nat) :
    digits 16 m [digitChar n] = some (16 * m + n) := by
  rw [digits_cons (digitChar_ne_underscore n hn), value?_digitChar n hn]
  simp only [Option.bind_some, if_pos hn, digits]

lemma digits_toDigits (n : Nat) : digits 16 0 (toDigits 16 n) = some n := by
  induction n using Nat.strongRecOn with
  | ind n ih =>
    rw [Nat.toDigits_eq_if (by decide)]
    split
    · rename_i h
      simpa using digits_digitChar h 0
    · rename_i h
      rw [digits_append, ih (n / 16) (by omega), Option.bind_some,
        digits_digitChar (Nat.mod_lt n (by decide)), Nat.div_add_mod]

end Numeral

/-- A number in hexadecimal digits is read as itself. -/
lemma numeral?_ofNat (n : Nat) : numeral? (Hex.ofNat n) = some n := by
  rw [numeral?, Hex.ofNat, String.toList_ofList]
  exact Numeral.digits_toDigits n

end Text

end SwapPlan

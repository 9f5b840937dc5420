import SwapPlan.Path.Boosted
import SwapPlan.Proofs.Path.Packed
import Mathlib.Data.List.GetD
import Mathlib.Tactic.SplitIfs

/-!
Boosted paths and their bytes. A record leaves out the outer output token of its hop, which is the
input token of the record before it; so just the lists of hops that hang together are written, and
reading finds every token again.
-/

namespace SwapPlan.Path

/-! ### Vault actions -/

namespace VaultAction

variable {a : VaultAction} {b : UInt8}

lemma ofByte_eq_ok : ofByte b = .ok a ↔ b = a.byte := by
  constructor
  · intro h
    unfold ofByte at h
    split_ifs at h with h0 h1 h2 <;> obtain rfl := Except.ok.inj h
    exacts [h0, h1, h2]
  · rintro rfl
    exact ofByte_byte a

lemma exists_byte : (∃ a : VaultAction, b = a.byte) ↔ b ≤ 2 := by
  constructor
  · rintro ⟨a, rfl⟩
    cases a <;> decide
  · intro h
    have hb : b = 0 ∨ b = 1 ∨ b = 2 := by
      rw [UInt8.le_iff_toNat_le] at h
      simp only [← UInt8.toNat_inj]
      simp at h ⊢
      omega
    rcases hb with rfl | rfl | rfl
    exacts [⟨none, rfl⟩, ⟨wrap, rfl⟩, ⟨unwrap, rfl⟩]

end VaultAction

namespace BoostedHop

variable {t a b c d : Address} {x y : UInt8} {rest bs : Bytes} {hops : List BoostedHop} {n : Nat}

/-! ### Records -/

/-- The bytes of a record: two vault actions and the four tokens between and behind them. -/
def record (x : UInt8) (a b c : Address) (y : UInt8) (d : Address) : Bytes :=
  x :: (a.bytes ++ (b.bytes ++ (c.bytes ++ y :: d.bytes)))

lemma encodeRecord_eq (h : BoostedHop) : h.encodeRecord =
    record h.wrapOut.byte h.poolTokenOut h.deployer h.poolTokenIn h.wrapIn.byte h.tokenIn := by
  simp [encodeRecord, record]

@[simp] lemma length_record : (record x a b c y d).length = 82 := by
  simp [record, Address.length_bytes]

/-- What is left of a record at its first address, its next two, and its second vault action. -/
lemma drop_record (x y : UInt8) (a b c d : Address) (rest : Bytes) :
    (record x a b c y d ++ rest).drop 1 =
      a.bytes ++ (b.bytes ++ (c.bytes ++ y :: (d.bytes ++ rest))) ∧
    (record x a b c y d ++ rest).drop 21 = b.bytes ++ (c.bytes ++ y :: (d.bytes ++ rest)) ∧
    (record x a b c y d ++ rest).drop 41 = c.bytes ++ y :: (d.bytes ++ rest) ∧
    (record x a b c y d ++ rest).drop 61 = y :: (d.bytes ++ rest) := by
  have h1 : (record x a b c y d ++ rest).drop 1 =
      a.bytes ++ (b.bytes ++ (c.bytes ++ y :: (d.bytes ++ rest))) := by
    simp [record]
  have h21 : (record x a b c y d ++ rest).drop 21 = _ := Address.drop_add h1
  have h41 : (record x a b c y d ++ rest).drop 41 = _ := Address.drop_add h21
  exact ⟨h1, h21, h41, Address.drop_add h41⟩

lemma getD_record : (record x a b c y d ++ rest).getD 61 0 = y := by
  obtain ⟨-, -, -, h61⟩ := drop_record x y a b c d rest
  rw [List.getD_eq_getElem?_getD, ← List.head?_drop, h61, List.head?_cons, Option.getD_some]

lemma decodeRecord_record : decodeRecord t (record x a b c y d ++ rest) = do
    let wrapOut ← VaultAction.ofByte x
    let wrapIn ← VaultAction.ofByte y
    return ⟨t, wrapOut, a, b, c, wrapIn, d⟩ := by
  obtain ⟨h1, h21, h41, h61⟩ := drop_record x y a b c d rest
  have h62 : (record x a b c y d ++ rest).drop 62 = d.bytes ++ rest := by
    rw [← List.tail_drop, h61, List.tail_cons]
  have hx : (record x a b c y d ++ rest).getD 0 0 = x := rfl
  simp only [decodeRecord, h1, h21, h41, h62, hx, getD_record, Address.ofLeading_append]

/-- A run of records begins with the bytes of one. -/
lemma exists_record (h : bs.length = (n + 1) * 82) : ∃ x a b c y d rest,
    bs = record x a b c y d ++ rest ∧ rest.length = n * 82 := by
  rcases bs with _ | ⟨x, bs⟩
  · simp at h
  rw [List.length_cons] at h
  obtain ⟨a, bs, rfl, ha⟩ := Address.exists_append bs (by omega)
  obtain ⟨b, bs, rfl, hb⟩ := Address.exists_append bs (by omega)
  obtain ⟨c, bs, rfl, hc⟩ := Address.exists_append bs (by omega)
  rcases bs with _ | ⟨y, bs⟩
  · rw [List.length_nil] at hc
    omega
  rw [List.length_cons] at hc
  obtain ⟨d, rest, rfl, hd⟩ := Address.exists_append bs (by omega)
  exact ⟨x, a, b, c, y, d, rest, by simp [record], by omega⟩

lemma decodeRecords_succ :
    decodeRecords (n + 1) t (record x a b c y d ++ rest) = .ok hops ↔
      ∃ wrapOut wrapIn hops', x = VaultAction.byte wrapOut ∧ y = VaultAction.byte wrapIn ∧
        decodeRecords n d rest = .ok hops' ∧ hops = ⟨t, wrapOut, a, b, c, wrapIn, d⟩ :: hops' := by
  have hdrop : (record x a b c y d ++ rest).drop recordSize = rest := by
    rw [recordSize, ← length_record (x := x) (y := y), List.drop_left]
  simp only [decodeRecords, decodeRecord_record, hdrop, bind_eq_ok, pure_eq_ok,
    VaultAction.ofByte_eq_ok]
  constructor
  · rintro ⟨_, ⟨wrapOut, hx, wrapIn, hy, rfl⟩, hops', hhops', rfl⟩
    exact ⟨wrapOut, wrapIn, hops', hx, hy, hhops', rfl⟩
  · rintro ⟨wrapOut, wrapIn, hops', hx, hy, hhops', rfl⟩
    exact ⟨_, ⟨wrapOut, hx, wrapIn, hy, rfl⟩, hops', hhops', rfl⟩

/-! ### Runs of records -/

/-- Hops that begin with a token and hang together. -/
def Linked : Address → List BoostedHop → Prop
  | _, [] => True
  | t, h :: hops => h.tokenOut = t ∧ Linked h.tokenIn hops

/-- Linked hops are written as just the records that are read as them. -/
lemma linked_iff_decodeRecords : Linked t hops ∧ bs = hops.flatMap encodeRecord ↔
    bs.length = hops.length * 82 ∧ decodeRecords hops.length t bs = .ok hops := by
  induction hops generalizing t bs with
  | nil => simp [Linked, decodeRecords]
  | cons h hops ih =>
      rw [List.flatMap_cons, encodeRecord_eq, List.length_cons]
      constructor
      · rintro ⟨⟨rfl, hlinked⟩, rfl⟩
        obtain ⟨hlen, hhops⟩ := ih.mp ⟨hlinked, rfl⟩
        refine ⟨?_, decodeRecords_succ.mpr ⟨_, _, hops, rfl, rfl, hhops, rfl⟩⟩
        rw [List.length_append, length_record, hlen]
        omega
      · rintro ⟨hlen, hdecode⟩
        obtain ⟨x, a, b, c, y, d, rest, rfl, hrest⟩ := exists_record hlen
        obtain ⟨wrapOut, wrapIn, hops', rfl, rfl, hhops, heq⟩ := decodeRecords_succ.mp hdecode
        obtain ⟨rfl, rfl⟩ := List.cons.inj heq
        obtain ⟨hlinked, rfl⟩ := ih.mpr ⟨hrest, hhops⟩
        exact ⟨⟨rfl, hlinked⟩, rfl⟩

lemma length_of_decodeRecords (h : decodeRecords n t bs = .ok hops) : hops.length = n := by
  induction n generalizing t bs hops with
  | zero =>
      obtain rfl := Except.ok.inj h
      rfl
  | succ n ih =>
      simp only [decodeRecords, bind_eq_ok, pure_eq_ok] at h
      obtain ⟨_, -, hops', hhops', rfl⟩ := h
      rw [List.length_cons, ih hhops']

/-- Records are read if both of their vault actions are known. -/
lemma exists_decodeRecords (h : bs.length = n * 82) :
    (∃ hops, decodeRecords n t bs = .ok hops) ↔
      ∀ i < n, bs.getD (82 * i) 0 ≤ 2 ∧ bs.getD (82 * i + 61) 0 ≤ 2 := by
  induction n generalizing t bs with
  | zero => simp [decodeRecords]
  | succ n ih =>
      obtain ⟨x, a, b, c, y, d, rest, rfl, hrest⟩ := exists_record h
      have hshift : ∀ k, (record x a b c y d ++ rest).getD (k + 82) 0 = rest.getD k 0 := by
        intro k
        rw [List.getD_append_right _ _ _ _ (by simp), length_record, Nat.add_sub_cancel]
      rw [Nat.forall_lt_succ_left, Nat.mul_zero, Nat.zero_add, getD_record]
      simp only [Nat.mul_succ, Nat.add_right_comm _ 82 61, hshift]
      rw [← ih hrest (t := d), ← VaultAction.exists_byte, ← VaultAction.exists_byte]
      constructor
      · rintro ⟨hops, hhops⟩
        obtain ⟨wrapOut, wrapIn, hops', hx, hy, hhops', -⟩ := decodeRecords_succ.mp hhops
        exact ⟨⟨⟨wrapOut, hx⟩, wrapIn, hy⟩, hops', hhops'⟩
      · rintro ⟨⟨⟨wrapOut, hx⟩, wrapIn, hy⟩, hops', hhops'⟩
        exact ⟨_, decodeRecords_succ.mpr ⟨wrapOut, wrapIn, hops', hx, hy, hhops', rfl⟩⟩

/-! ### Whole paths -/

/-- Each hop begins where the one before it ends. -/
def Chained (hops : List BoostedHop) : Prop := hops.IsChain fun g h => g.tokenIn = h.tokenOut

lemma chained_cons_cons {g h : BoostedHop} :
    Chained (g :: h :: hops) ↔ g.tokenIn = h.tokenOut ∧ Chained (h :: hops) :=
  List.isChain_cons_cons

lemma chainFault?_eq_none {i : Nat} : chainFault? i hops = none ↔ Chained hops := by
  induction hops generalizing i with
  | nil => simp [chainFault?, Chained]
  | cons g hops ih =>
      rcases hops with _ | ⟨h, hops⟩
      · simp [chainFault?, Chained]
      · rw [chained_cons_cons, ← ih (i := i + 1), chainFault?]
        split_ifs with hmeet
        · simp [hmeet]
        · simp [hmeet]

lemma linked_iff {h : BoostedHop} :
    Linked t (h :: hops) ↔ h.tokenOut = t ∧ Chained (h :: hops) := by
  induction hops generalizing t h with
  | nil => simp [Linked, Chained]
  | cons g hops ih =>
      rw [Linked, ih, chained_cons_cons, eq_comm (a := g.tokenOut)]

lemma encode_eq_ok : encode hops = .ok bs ↔ ∃ t rest, hops ≠ [] ∧
    (Linked t hops ∧ rest = hops.flatMap encodeRecord) ∧ bs = t.bytes ++ rest := by
  rcases hops with _ | ⟨h, hops⟩
  · simp [encode]
  · constructor
    · intro hencode
      simp only [encode] at hencode
      split at hencode
      · simp at hencode
      · rename_i hfault
        obtain rfl := Except.ok.inj hencode
        exact ⟨h.tokenOut, _, List.cons_ne_nil h hops,
          ⟨linked_iff.mpr ⟨rfl, chainFault?_eq_none.mp hfault⟩, rfl⟩, rfl⟩
    · rintro ⟨t, rest, -, ⟨hlinked, rfl⟩, rfl⟩
      obtain ⟨rfl, hchained⟩ := linked_iff.mp hlinked
      simp only [encode, chainFault?_eq_none.mpr hchained]

lemma decode_append (hn : 1 ≤ n) (h : rest.length = n * 82) :
    decode (t.bytes ++ rest) = decodeRecords n t rest := by
  have hlen : (t.bytes ++ rest).length = 20 + n * 82 := by
    rw [List.length_append, t.length_bytes, h]
  have hdrop : (t.bytes ++ rest).drop 20 = rest := by
    rw [← t.length_bytes, List.drop_left]
  have hcond := (behind_token_iff (show 0 < 82 by decide)).mpr ⟨n, hn, hlen⟩
  have hcount : ((t.bytes ++ rest).length - 20) / 82 = n := by omega
  simp only [decode, recordSize, if_neg hcond, hcount, hdrop, Address.ofLeading_append]

lemma decode_eq_ok : decode bs = .ok hops ↔ ∃ t rest, hops ≠ [] ∧
    (rest.length = hops.length * 82 ∧ decodeRecords hops.length t rest = .ok hops) ∧
    bs = t.bytes ++ rest := by
  constructor
  · intro h
    have hcond : ¬ (bs.length < 20 + recordSize ∨ (bs.length - 20) % recordSize ≠ 0) := by
      intro hcond
      rw [decode, if_pos hcond] at h
      cases h
    obtain ⟨n, hn, hlen⟩ : ∃ n, 1 ≤ n ∧ bs.length = 20 + n * 82 :=
      (behind_token_iff (by decide)).mp hcond
    obtain ⟨t, rest, rfl, hrest⟩ := Address.exists_append bs (by omega)
    have hrest : rest.length = n * 82 := by omega
    rw [decode_append hn hrest] at h
    obtain rfl := length_of_decodeRecords h
    exact ⟨t, rest, List.length_pos_iff.mp hn, ⟨hrest, h⟩, rfl⟩
  · rintro ⟨t, rest, hne, ⟨hrest, h⟩, rfl⟩
    rw [decode_append (List.length_pos_iff.mpr hne) hrest, h]

lemma exists_encode : (∃ bs, encode hops = .ok bs) ↔ hops ≠ [] ∧ Chained hops := by
  constructor
  · rintro ⟨bs, h⟩
    obtain ⟨t, rest, hne, ⟨hlinked, -⟩, -⟩ := encode_eq_ok.mp h
    rcases hops with _ | ⟨h, hops⟩
    · exact absurd rfl hne
    · exact ⟨hne, (linked_iff.mp hlinked).2⟩
  · rintro ⟨hne, hchained⟩
    rcases hops with _ | ⟨h, hops⟩
    · exact absurd rfl hne
    · exact ⟨_, encode_eq_ok.mpr ⟨h.tokenOut, _, hne, ⟨linked_iff.mpr ⟨rfl, hchained⟩, rfl⟩, rfl⟩⟩

lemma exists_decode : (∃ hops, decode bs = .ok hops) ↔ ∃ k, 1 ≤ k ∧ bs.length = 20 + 82 * k ∧
    ∀ i < k, bs.getD (20 + 82 * i) 0 ≤ 2 ∧ bs.getD (20 + 82 * i + 61) 0 ≤ 2 := by
  have hshift : ∀ (t : Address) (rest : Bytes) (i : Nat),
      (t.bytes ++ rest).getD (20 + i) 0 = rest.getD i 0 := by
    intro t rest i
    rw [List.getD_append_right _ _ _ _ (by rw [t.length_bytes]; omega), t.length_bytes,
      Nat.add_sub_cancel_left]
  constructor
  · rintro ⟨hops, h⟩
    obtain ⟨t, rest, hne, ⟨hrest, hdecode⟩, rfl⟩ := decode_eq_ok.mp h
    refine ⟨hops.length, List.length_pos_iff.mpr hne, ?_, ?_⟩
    · rw [List.length_append, t.length_bytes, hrest, Nat.mul_comm]
    · simp only [Nat.add_assoc, hshift]
      exact (exists_decodeRecords hrest).mp ⟨hops, hdecode⟩
  · rintro ⟨k, hk, hlen, hknown⟩
    obtain ⟨t, rest, rfl, hrest⟩ := Address.exists_append bs (by omega)
    have hrest : rest.length = k * 82 := by omega
    simp only [Nat.add_assoc, hshift] at hknown
    rw [decode_append hk hrest]
    exact (exists_decodeRecords hrest).mpr hknown

/-- **Boosted paths and their bytes are in bijection.** -/
theorem boosted_bijective (hops : List BoostedHop) (bs : Bytes) :
    ((∃ bs, encode hops = .ok bs) ↔ hops ≠ [] ∧ hops.IsChain fun g h => g.tokenIn = h.tokenOut) ∧
    ((∃ hops, decode bs = .ok hops) ↔ ∃ k, 1 ≤ k ∧ bs.length = 20 + 82 * k ∧
      ∀ i < k, bs.getD (20 + 82 * i) 0 ≤ 2 ∧ bs.getD (20 + 82 * i + 61) 0 ≤ 2) ∧
    (encode hops = .ok bs ↔ decode bs = .ok hops) ∧
    (decode bs = .ok hops ↔
      (hops.IsChain fun g h => g.tokenIn = h.tokenOut) ∧ encode hops = .ok bs) := by
  have hiff : encode hops = .ok bs ↔ decode bs = .ok hops := by
    rw [encode_eq_ok, decode_eq_ok]
    simp only [linked_iff_decodeRecords]
  refine ⟨exists_encode, exists_decode, hiff, ?_⟩
  rw [← hiff]
  exact ⟨fun h => ⟨(exists_encode.mp ⟨bs, h⟩).2, h⟩, And.right⟩

end BoostedHop

end SwapPlan.Path

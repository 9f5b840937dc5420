import SwapPlan.Abi.Layout
import SwapPlan.Proofs.Bytes

/-!
Reading a parameter list that was written. The heads and tails of its values lie in the data where
the offsets say, and a layout that finds its values there finds them whatever stands before,
between or behind them.
-/

namespace SwapPlan.Abi

variable {ps qs : List Part} {data bs rest : Bytes} {place offset n : Nat}

/-! ### Heads and tails -/

@[simp] lemma headSize_append : headSize (ps ++ qs) = headSize ps + headSize qs := by
  induction ps with
  | nil => simp [headSize]
  | cons p ps ih => rw [List.cons_append, headSize, ih, headSize, Nat.add_assoc]

@[simp] lemma tails_append : tails (ps ++ qs) = tails ps ++ tails qs := by
  induction ps with
  | nil => rfl
  | cons p ps ih => cases p <;> simp [tails, ih]

lemma heads_append :
    heads offset (ps ++ qs) = heads offset ps ++ heads (offset + (tails ps).length) qs := by
  induction ps generalizing offset with
  | nil => rfl
  | cons p ps ih => cases p <;> simp [heads, tails, ih, Nat.add_assoc]

@[simp] lemma length_heads : (heads offset ps).length = headSize ps := by
  induction ps generalizing offset with
  | nil => rfl
  | cons p ps ih => cases p <;> simp [heads, headSize, Part.headSize, ih]

@[simp] lemma length_assemble : (assemble ps).length = headSize ps + (tails ps).length := by
  simp [assemble]

lemma length_le_of_tail (h : Part.tail bs ∈ ps) : bs.length ≤ (assemble ps).length := by
  have htails : bs.length ≤ (tails ps).length := by
    induction ps with
    | nil => exact absurd h List.not_mem_nil
    | cons p ps ih =>
        rcases List.mem_cons.mp h with rfl | h
        · rw [tails, List.length_append]
          omega
        · have := ih h
          cases p with
          | inline bs' => exact this
          | tail bs' =>
              rw [tails, List.length_append]
              omega
  rw [length_assemble]
  omega

/-- The heads of a list lie in the data from `place` on and its tails from `offset` on, where every
offset fits a word. -/
structure Placed (data : Bytes) (place offset : Nat) (ps : List Part) : Prop where
  heads_prefix : heads offset ps <+: data.drop place
  tails_prefix : tails ps <+: data.drop offset
  le : offset + (tails ps).length ≤ data.length
  lt : offset + (tails ps).length < 2 ^ 256

lemma prefix_drop_of_append {a b l : Bytes} (h : a ++ b <+: l) :
    a <+: l ∧ b <+: l.drop a.length := by
  obtain ⟨t, rfl⟩ := h
  rw [List.append_assoc, List.drop_left]
  exact ⟨List.prefix_append a _, List.prefix_append b t⟩

/-- A list lies where its two halves do, the second behind the first. -/
lemma Placed.append (h : Placed data place offset (ps ++ qs)) : Placed data place offset ps ∧
    Placed data (place + headSize ps) (offset + (tails ps).length) qs := by
  obtain ⟨hheads, htails, hle, hlt⟩ := h
  rw [heads_append] at hheads
  rw [tails_append] at htails hle hlt
  rw [List.length_append] at hle hlt
  obtain ⟨hheads, hheads'⟩ := prefix_drop_of_append hheads
  obtain ⟨htails, htails'⟩ := prefix_drop_of_append htails
  rw [List.drop_drop, length_heads] at hheads'
  rw [List.drop_drop] at htails'
  exact ⟨⟨hheads, htails, by omega, by omega⟩, ⟨hheads', htails', by omega, by omega⟩⟩

lemma placed_assemble (h : (assemble ps).length < 2 ^ 256) :
    Placed (assemble ps ++ rest) 0 (headSize ps) ps := by
  have hdrop : (assemble ps ++ rest).drop (headSize ps) = tails ps ++ rest := by
    rw [assemble, List.append_assoc, List.drop_left' length_heads]
  rw [length_assemble] at h
  refine ⟨?_, ?_, ?_, h⟩
  · rw [List.drop_zero, assemble, List.append_assoc]
    exact List.prefix_append _ _
  · rw [hdrop]
    exact List.prefix_append _ _
  · rw [List.length_append, length_assemble]
    omega

/-! ### Words -/

lemma wordAt?_of_prefix (hlen : bs.length = wordSize) (h : bs <+: data.drop place) :
    wordAt? data place = some bs := by
  have hle := h.length_le
  rw [hlen, List.length_drop] at hle
  have hword : 0 < wordSize := by decide
  rw [wordAt?, if_pos (by omega), ← hlen, ← List.prefix_iff_eq_take.mp h]

lemma natAt?_of_prefix (hn : n < 2 ^ 256) (h : word n <+: data.drop place) :
    natAt? data place = some n := by
  have hn : n < 256 ^ wordSize := hn
  rw [natAt?, wordAt?_of_prefix (length_word n) h, Option.map_some, word, Bytes.toNat_ofNat hn]

lemma natAt?_word (hn : n < 2 ^ 256) : natAt? (word n ++ bs) 0 = some n :=
  natAt?_of_prefix hn (List.prefix_append (word n) bs)

lemma drop_word : (word n ++ bs).drop wordSize = bs := List.drop_left' (length_word n)

lemma Placed.inline (h : Placed data place offset [.inline bs]) : bs <+: data.drop place := by
  have := h.heads_prefix
  rwa [heads, heads, List.append_nil] at this

/-- The offset in the head of a value leads to its tail. -/
lemma Placed.follow (h : Placed data place offset [.tail bs]) :
    ∃ rest, followAt? data place = some (bs ++ rest) ∧ bs.length < 2 ^ 256 := by
  obtain ⟨hheads, htails, hle, hlt⟩ := h
  rw [heads, heads, List.append_nil] at hheads
  rw [tails, tails, List.append_nil] at htails hle hlt
  obtain ⟨rest, hrest⟩ := htails
  have hoffset : natAt? data place = some offset := natAt?_of_prefix (by omega) hheads
  refine ⟨rest, ?_, by omega⟩
  simp only [followAt?, hoffset, Option.bind_eq_bind, Option.bind_some]
  rw [if_pos (by omega), hrest]

/-! ### Layouts -/

namespace Layout

variable {α β : Type} {a l : Layout α} {b : Layout β} {w : Nat}

/-- Where a value was written, reading gives another, mostly the same. -/
structure Reads (l : Layout α) (x y : α) : Prop where
  headSize_parts : headSize (l.parts x) = l.size
  read_parts : ∀ {data place offset}, Placed data place offset (l.parts x) →
    l.read data place = some y

/-- A list is read back whatever stands behind it. -/
lemma Reads.decode_encode {x y : α} (h : l.Reads x y) (hlen : (l.encode x).length < 2 ^ 256)
    (rest : Bytes) : l.decode (l.encode x ++ rest) = some y :=
  h.read_parts (placed_assemble hlen)

/-- Where nothing stands behind a list, its bytes are all that is read. -/
lemma Reads.decode_written {x y : α} (h : l.Reads x y) (hlen : (l.encode x).length < 2 ^ 256) :
    l.decode (l.encode x) = some y := by
  have hread := h.decode_encode hlen []
  rwa [List.append_nil] at hread

lemma reads_uint (hw : w ≤ 256) (x : BitVec w) : (uint w).Reads x x where
  headSize_parts := by simp [uint, headSize, Part.headSize]
  read_parts h := by
    have hx : x.toNat < 2 ^ 256 :=
      Nat.lt_of_lt_of_le x.isLt (Nat.pow_le_pow_right (by decide) hw)
    simp only [uint, natAt?_of_prefix hx h.inline, Option.map_some, BitVec.ofNat_toNat,
      BitVec.setWidth_eq]

lemma reads_address (x : Address) : address.Reads x x where
  headSize_parts := by simp [address, headSize, Part.headSize, x.length_bytes, wordSize]
  read_parts h := by
    have hlen : (Bytes.zeros 12 ++ x.bytes).length = wordSize := by simp [x.length_bytes, wordSize]
    have hdrop : (Bytes.zeros 12 ++ x.bytes).drop 12 = x.bytes ++ [] := by simp [Bytes.zeros]
    simp only [address, wordAt?_of_prefix hlen h.inline, Option.map_some, hdrop,
      Address.ofLeading_append]

lemma reads_bool (x : Bool) : bool.Reads x x where
  headSize_parts := by simp [bool, headSize, Part.headSize]
  read_parts h := by
    have hx : x.toNat < 2 ^ 256 := by cases x <;> decide
    simp only [bool, natAt?_of_prefix hx h.inline, Option.map_some]
    cases x <;> rfl

lemma reads_bytes (x : Bytes) : bytes.Reads x x where
  headSize_parts := by simp [bytes, headSize, Part.headSize]
  read_parts {data place offset} h := by
    obtain ⟨rest, hfollow, hlt⟩ := h.follow
    have hx : x.length < 2 ^ 256 := by
      rw [List.length_append, List.length_append] at hlt
      omega
    simp only [List.append_assoc] at hfollow
    simp only [bytes, hfollow, natAt?_word hx, drop_word, List.take_left, Option.bind_eq_bind,
      Option.bind_some, if_true]

lemma Reads.pair {x x' : α} {y y' : β} (ha : a.Reads x x') (hb : b.Reads y y') :
    (a * b).Reads (x, y) (x', y') where
  headSize_parts := by
    change headSize (a.parts x ++ b.parts y) = a.size + b.size
    rw [headSize_append, ha.headSize_parts, hb.headSize_parts]
  read_parts {data place offset} h := by
    obtain ⟨hx, hy⟩ := Placed.append h
    rw [ha.headSize_parts] at hy
    change (Layout.pair a b).read data place = _
    simp only [Layout.pair, ha.read_parts hx, hb.read_parts hy, Option.bind_eq_bind,
      Option.bind_some]
    rfl

/-- Two values are read one behind the other. -/
lemma read_pair {z : α × β} (h : (a * b).read data place = some z) :
    a.read data place = some z.1 ∧ b.read data (place + a.size) = some z.2 := by
  obtain ⟨x, hx, h⟩ := Option.bind_eq_some_iff.mp h
  obtain ⟨y, hy, h⟩ := Option.bind_eq_some_iff.mp h
  cases h
  exact ⟨hx, hy⟩

lemma Reads.map {of : α → β} {back : β → α} {x x' : α} {y y' : β} (hback : back y = x)
    (h : l.Reads x x') (hof : of x' = y') : (l.map of back).Reads y y' where
  headSize_parts := by
    subst hback
    exact h.headSize_parts
  read_parts hplaced := by
    subst hback
    simp only [Layout.map, h.read_parts hplaced, Option.map_some, hof]

lemma Reads.nested {x y : α} (h : l.Reads x y) : (nested l).Reads x y where
  headSize_parts := by simp [Layout.nested, headSize, Part.headSize]
  read_parts hplaced := by
    obtain ⟨rest, hfollow, hlt⟩ := hplaced.follow
    simp only [Layout.nested, hfollow, Option.bind_eq_bind, Option.bind_some]
    exact h.decode_encode hlt rest

/-! ### Arrays -/

lemma headSize_flatMap {xs : List α} (h : ∀ x ∈ xs, l.Reads x x) :
    headSize (xs.flatMap l.parts) = xs.length * l.size := by
  induction xs with
  | nil => simp [headSize]
  | cons x xs ih =>
      rw [List.flatMap_cons, headSize_append, (h x List.mem_cons_self).headSize_parts,
        ih fun y hy => h y (List.mem_cons_of_mem x hy), List.length_cons, Nat.succ_mul,
        Nat.add_comm]

/-- Elements are read one behind the other. -/
lemma readMany_of_placed {xs : List α} (h : ∀ x ∈ xs, l.Reads x x)
    (hplaced : Placed data place offset (xs.flatMap l.parts)) :
    readMany l data xs.length place = some xs := by
  induction xs generalizing place offset with
  | nil => rfl
  | cons x xs ih =>
      have hx := h x List.mem_cons_self
      obtain ⟨hhead, htail⟩ := hplaced.append
      rw [hx.headSize_parts] at htail
      rw [List.length_cons, readMany, hx.read_parts hhead,
        ih (fun y hy => h y (List.mem_cons_of_mem x hy)) htail]
      rfl

lemma reads_array (hsize : wordSize ≤ l.size) {xs : List α} (h : ∀ x ∈ xs, l.Reads x x) :
    (array l).Reads xs xs where
  headSize_parts := by simp [array, headSize, Part.headSize]
  read_parts {data place offset} hplaced := by
    obtain ⟨rest, hfollow, hlt⟩ := hplaced.follow
    rw [List.length_append] at hlt
    have hbody : (assemble (xs.flatMap l.parts)).length < 2 ^ 256 := by omega
    -- Every element takes a word at least, so the count is no more than the words behind it.
    have hwords : xs.length * wordSize ≤ (assemble (xs.flatMap l.parts)).length := by
      rw [length_assemble, headSize_flatMap h]
      exact Nat.le_trans (Nat.mul_le_mul_left _ hsize) (Nat.le_add_right _ _)
    have hcount : xs.length < 2 ^ 256 := by
      rw [wordSize] at hwords
      omega
    rw [List.append_assoc] at hfollow
    have hfits : xs.length ≤ (assemble (xs.flatMap l.parts) ++ rest).length / wordSize := by
      rw [Nat.le_div_iff_mul_le (by decide), List.length_append]
      omega
    simp only [array, hfollow, natAt?_word hcount, drop_word, Option.bind_eq_bind,
      Option.bind_some]
    rw [if_pos hfits, readMany_of_placed h (placed_assemble hbody)]

/-- A list with an array in it is as long as each tail of the array's elements. -/
lemma length_le_of_element {x : α} {xs : List α} (h : x ∈ xs) (hpart : Part.tail bs ∈ l.parts x)
    (hparts : (array l).parts xs ⊆ ps) : bs.length ≤ (assemble ps).length := by
  have hbody := length_le_of_tail (List.mem_flatMap.mpr ⟨x, h, hpart⟩)
  have hlist := length_le_of_tail (hparts (List.mem_singleton_self _))
  rw [List.length_append] at hlist
  omega

/-- An array of lists is as long as each byte string in one of them. -/
lemma length_le_of_nested {x : α} {xs : List α} (h : x ∈ xs) (hparts : bytes.parts bs ⊆ l.parts x) :
    bs.length ≤ ((array (nested l)).encode xs).length := by
  have hdata := length_le_of_tail (hparts (List.mem_singleton_self _))
  have helement : (l.encode x).length ≤ ((array (nested l)).encode xs).length :=
    length_le_of_element h (List.mem_singleton_self _) fun _ hpart => hpart
  rw [List.length_append, List.length_append] at hdata
  rw [encode] at helement
  omega

/-- A list with an array of byte strings in it is as long as each of them. -/
lemma length_le_of_mem {xs : List Bytes} (h : bs ∈ xs) (hparts : (array bytes).parts xs ⊆ ps) :
    bs.length ≤ (assemble ps).length := by
  have helement := length_le_of_element h (List.mem_singleton_self _) hparts
  rw [List.length_append, List.length_append] at helement
  omega

end Layout

end SwapPlan.Abi

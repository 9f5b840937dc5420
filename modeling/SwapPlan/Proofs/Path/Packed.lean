import SwapPlan.Path.Packed
import SwapPlan.Proofs.Bytes
import SwapPlan.Proofs.Outcome

/-!
Packed paths and their bytes. Behind the first token a path is a run of records of one size, and
every string of such records spells exactly one path, which writing spells the same way again.
-/

namespace SwapPlan.Path

variable {ι : Type} {f : IdentFormat ι} {Fits : ι → Prop}

/-- Behind twenty bytes stand records of one size, at least one. -/
lemma behind_token_iff {n size : Nat} (h : 0 < size) :
    ¬ (n < 20 + size ∨ (n - 20) % size ≠ 0) ↔ ∃ k, 1 ≤ k ∧ n = 20 + k * size := by
  constructor
  · intro hn
    have hmul : (n - 20) / size * size = n - 20 :=
      Nat.div_mul_cancel (Nat.dvd_of_mod_eq_zero (by omega))
    refine ⟨(n - 20) / size, (Nat.le_div_iff_mul_le h).mpr (by omega), by omega⟩
  · rintro ⟨k, hk, rfl⟩
    have hle : size ≤ k * size := Nat.le_mul_of_pos_left _ hk
    rw [Nat.add_sub_cancel_left, Nat.mul_mod_left]
    omega

/-! ### Identifiers -/

namespace IdentFormat

/-- A format that writes the identifiers that fit, each as a string of its width, and that reads
every such string as the one identifier that it is written for. -/
structure Exact (f : IdentFormat ι) (Fits : ι → Prop) : Prop where
  exists_write : ∀ i, (∃ bs, f.write i = .ok bs) ↔ Fits i
  write_eq_ok : ∀ i bs, f.write i = .ok bs ↔ bs.length = f.width ∧ f.read bs = .ok i
  exists_read : ∀ bs, bs.length = f.width → ∃ i, f.read bs = .ok i

lemma fee_exact : fee.Exact fun i => i.toNat < 2 ^ 24 where
  exists_write i := by
    simp only [fee]
    split <;> simp <;> omega
  write_eq_ok i bs := by
    simp only [fee]
    constructor
    · intro h
      split at h
      · rename_i hle
        obtain rfl := Except.ok.inj h
        have hlt : i.toNat < 256 ^ 3 := by omega
        simp [Bytes.toNat_ofNat hlt]
      · simp at h
    · rintro ⟨hlen, h⟩
      rw [if_pos (Nat.le_of_eq hlen), Except.ok.injEq] at h
      have hlt : bs.toNat < 256 ^ 3 := hlen ▸ Bytes.toNat_lt bs
      have hi : i.toNat = bs.toNat := by
        rw [← h, UInt32.toNat_ofNat']
        omega
      rw [if_pos (by omega), hi, ← hlen, Bytes.ofNat_toNat]
  exists_read bs h := ⟨_, if_pos (Nat.le_of_eq h)⟩

lemma deployer_exact : deployer.Exact fun _ => True where
  exists_write i := iff_of_true ⟨i.bytes, rfl⟩ trivial
  write_eq_ok i bs := by
    simp only [deployer, Except.ok.injEq]
    constructor
    · rintro rfl
      exact ⟨i.length_bytes, by rw [Address.ofBytes?_bytes]⟩
    · rintro ⟨-, h⟩
      split at h
      · rename_i a ha
        obtain rfl := Except.ok.inj h
        exact Address.ofBytes?_eq_some.mp ha
      · simp at h
  exists_read bs h := by
    have ha : Address.ofBytes? bs = some ⟨bs, h⟩ := Address.ofBytes?_bytes ⟨bs, h⟩
    exact ⟨⟨bs, h⟩, by simp only [deployer, ha]⟩

end IdentFormat

namespace Packed

/-! ### Records -/

lemma encodeHops_cons {i : ι} {t : Address} {hops : List (ι × Address)} {bs : Bytes} :
    encodeHops f ((i, t) :: hops) = .ok bs ↔ ∃ ident rest, f.write i = .ok ident ∧
      encodeHops f hops = .ok rest ∧ bs = ident ++ (t.bytes ++ rest) := by
  simp only [encodeHops, bind_eq_ok, pure_eq_ok, List.append_assoc]
  constructor
  · rintro ⟨ident, hident, rest, hrest, rfl⟩
    exact ⟨ident, rest, hident, hrest, rfl⟩
  · rintro ⟨ident, rest, hident, hrest, rfl⟩
    exact ⟨ident, hident, rest, hrest, rfl⟩

lemma decodeHops_succ {n : Nat} {ident rest : Bytes} {t : Address} {hops : List (ι × Address)}
    (h : ident.length = f.width) :
    decodeHops f (n + 1) (ident ++ (t.bytes ++ rest)) = .ok hops ↔ ∃ i hops',
      f.read ident = .ok i ∧ decodeHops f n rest = .ok hops' ∧ hops = (i, t) :: hops' := by
  have htake : (ident ++ (t.bytes ++ rest)).take f.width = ident := by
    rw [← h, List.take_left]
  have htoken : (ident ++ (t.bytes ++ rest)).drop f.width = t.bytes ++ rest := by
    rw [← h, List.drop_left]
  have hrest : (ident ++ (t.bytes ++ rest)).drop (f.width + 20) = rest := Address.drop_add htoken
  simp only [decodeHops, htake, htoken, hrest, Address.ofLeading_append, bind_eq_ok, pure_eq_ok]
  constructor
  · rintro ⟨i, hi, hops', hhops', rfl⟩
    exact ⟨i, hops', hi, hhops', rfl⟩
  · rintro ⟨i, hops', hi, hhops', rfl⟩
    exact ⟨i, hi, hops', hhops', rfl⟩

/-- A run of records begins with the bytes of an identifier and of a token. -/
lemma exists_record {bs : Bytes} {n width : Nat} (h : bs.length = (n + 1) * (width + 20)) :
    ∃ ident t rest, ident.length = width ∧ rest.length = n * (width + 20) ∧
      bs = ident ++ (Address.bytes t ++ rest) := by
  rw [Nat.succ_mul] at h
  have hdrop : 20 ≤ (bs.drop width).length := by
    rw [List.length_drop]
    omega
  obtain ⟨t, rest, hrest, hlen⟩ := Address.exists_append _ hdrop
  refine ⟨bs.take width, t, rest, ?_, ?_, ?_⟩
  · rw [List.length_take]
    omega
  · rw [List.length_drop] at hlen
    omega
  · rw [← hrest, List.take_append_drop]

lemma length_of_decodeHops {n : Nat} {bs : Bytes} {hops : List (ι × Address)}
    (h : decodeHops f n bs = .ok hops) : hops.length = n := by
  induction n generalizing bs hops with
  | zero =>
      obtain rfl := Except.ok.inj h
      rfl
  | succ n ih =>
      simp only [decodeHops, bind_eq_ok, pure_eq_ok] at h
      obtain ⟨i, -, hops', hhops', rfl⟩ := h
      rw [List.length_cons, ih hhops']

/-- Hops are written as just the string of records that is read as them. -/
lemma encodeHops_eq_ok (hf : f.Exact Fits) {hops : List (ι × Address)} {bs : Bytes} :
    encodeHops f hops = .ok bs ↔
      bs.length = hops.length * (f.width + 20) ∧ decodeHops f hops.length bs = .ok hops := by
  induction hops generalizing bs with
  | nil => simp [encodeHops, decodeHops, eq_comm]
  | cons hop hops ih =>
      obtain ⟨i, t⟩ := hop
      rw [encodeHops_cons, List.length_cons]
      constructor
      · rintro ⟨ident, rest, hident, hrest, rfl⟩
        obtain ⟨hwidth, hread⟩ := (hf.write_eq_ok i ident).mp hident
        obtain ⟨hlen, hhops⟩ := ih.mp hrest
        refine ⟨?_, (decodeHops_succ hwidth).mpr ⟨i, hops, hread, hhops, rfl⟩⟩
        rw [List.length_append, List.length_append, hwidth, t.length_bytes, hlen, Nat.succ_mul]
        omega
      · rintro ⟨hlen, h⟩
        obtain ⟨ident, u, rest, hwidth, hrest, rfl⟩ := exists_record hlen
        obtain ⟨j, hops', hread, hhops, heq⟩ := (decodeHops_succ hwidth).mp h
        obtain ⟨⟨rfl, rfl⟩, rfl⟩ := by simpa using heq
        exact ⟨ident, rest, (hf.write_eq_ok i ident).mpr ⟨hwidth, hread⟩,
          ih.mpr ⟨hrest, hhops⟩, rfl⟩

lemma exists_encodeHops (hf : f.Exact Fits) (hops : List (ι × Address)) :
    (∃ bs, encodeHops f hops = .ok bs) ↔ ∀ i ∈ hops.map Prod.fst, Fits i := by
  induction hops with
  | nil => simp [encodeHops]
  | cons hop hops ih =>
      obtain ⟨i, t⟩ := hop
      rw [List.map_cons, List.forall_mem_cons, ← ih, ← hf.exists_write]
      constructor
      · rintro ⟨bs, h⟩
        obtain ⟨ident, rest, hident, hrest, -⟩ := encodeHops_cons.mp h
        exact ⟨⟨ident, hident⟩, rest, hrest⟩
      · rintro ⟨⟨ident, hident⟩, rest, hrest⟩
        exact ⟨_, encodeHops_cons.mpr ⟨ident, rest, hident, hrest, rfl⟩⟩

lemma exists_decodeHops (hf : f.Exact Fits) {n : Nat} {bs : Bytes}
    (h : bs.length = n * (f.width + 20)) : ∃ hops, decodeHops f n bs = .ok hops := by
  induction n generalizing bs with
  | zero => exact ⟨[], rfl⟩
  | succ n ih =>
      obtain ⟨ident, t, rest, hwidth, hrest, rfl⟩ := exists_record h
      obtain ⟨i, hi⟩ := hf.exists_read ident hwidth
      obtain ⟨hops, hhops⟩ := ih hrest
      exact ⟨(i, t) :: hops, (decodeHops_succ hwidth).mpr ⟨i, hops, hi, hhops, rfl⟩⟩

/-! ### Whole paths -/

/-- The path from a token over hops. -/
def ofHops (t : Address) (hops : List (ι × Address)) : Packed ι :=
  ⟨t :: hops.map Prod.snd, hops.map Prod.fst⟩

/-- A path of at least two tokens, with one identifier between each two neighbours. -/
def IsPath (p : Packed ι) : Prop :=
  2 ≤ p.tokens.length ∧ p.idents.length + 1 = p.tokens.length

lemma isPath_iff {p : Packed ι} : p.IsPath ↔ ∃ t hops, hops ≠ [] ∧ p = ofHops t hops := by
  obtain ⟨tokens, idents⟩ := p
  constructor
  · rintro ⟨htwo, hlen⟩
    simp only at htwo hlen
    match tokens, htwo with
    | t :: ts, htwo =>
      rw [List.length_cons] at htwo hlen
      refine ⟨t, idents.zip ts, List.ne_nil_of_length_pos ?_, ?_⟩
      · rw [List.length_zip]
        omega
      · rw [ofHops, List.map_snd_zip (by omega), List.map_fst_zip (by omega)]
  · rintro ⟨t, hops, hne, h⟩
    have hpos := List.length_pos_iff.mpr hne
    rw [h]
    refine ⟨?_, ?_⟩
    · rw [ofHops, List.length_cons, List.length_map]
      omega
    · rw [ofHops, List.length_cons, List.length_map, List.length_map]

lemma encode_ofHops {t : Address} {hops : List (ι × Address)} (hne : hops ≠ []) :
    (ofHops t hops).encode f = do return t.bytes ++ (← encodeHops f hops) := by
  rcases hops with _ | ⟨⟨i, u⟩, hops⟩
  · exact absurd rfl hne
  · have hzip : (hops.map Prod.fst).zip (hops.map Prod.snd) = hops := by
      rw [List.zip_map', List.map_id'']
      intro hop
      rfl
    simp [ofHops, encode, hzip]

lemma encode_eq_ok {p : Packed ι} {bs : Bytes} :
    p.encode f = .ok bs ↔ ∃ t hops rest, hops ≠ [] ∧ p = ofHops t hops ∧
      encodeHops f hops = .ok rest ∧ bs = t.bytes ++ rest := by
  constructor
  · intro h
    have hpath : p.IsPath := by
      obtain ⟨tokens, idents⟩ := p
      unfold encode at h
      split at h
      · rename_i t u ts htokens
        split at h
        · rename_i hlen
          simp only at htokens hlen
          simp [IsPath, htokens, hlen]
        · simp at h
      · simp at h
    obtain ⟨t, hops, hne, rfl⟩ := isPath_iff.mp hpath
    rw [encode_ofHops hne] at h
    simp only [bind_eq_ok, pure_eq_ok] at h
    obtain ⟨rest, hrest, rfl⟩ := h
    exact ⟨t, hops, rest, hne, rfl, hrest, rfl⟩
  · rintro ⟨t, hops, rest, hne, rfl, hrest, rfl⟩
    rw [encode_ofHops hne, hrest]
    rfl

lemma decode_append {t : Address} {rest : Bytes} {n : Nat} (hn : 1 ≤ n)
    (h : rest.length = n * (f.width + 20)) :
    decode f (t.bytes ++ rest) = do return ofHops t (← decodeHops f n rest) := by
  have hlen : (t.bytes ++ rest).length = 20 + n * (f.width + 20) := by
    rw [List.length_append, t.length_bytes, h]
  have hdrop : (t.bytes ++ rest).drop 20 = rest := by
    rw [← t.length_bytes, List.drop_left]
  have hcond := (behind_token_iff (show 0 < f.width + 20 by omega)).mpr ⟨n, hn, hlen⟩
  have hcount : ((t.bytes ++ rest).length - 20) / (f.width + 20) = n := by
    rw [hlen, Nat.add_sub_cancel_left]
    exact Nat.mul_div_cancel _ (by omega)
  simp only [decode, if_neg hcond, hcount, hdrop, Address.ofLeading_append]
  rfl

lemma decode_eq_ok {p : Packed ι} {bs : Bytes} :
    decode f bs = .ok p ↔ ∃ t hops rest, hops ≠ [] ∧ p = ofHops t hops ∧
      rest.length = hops.length * (f.width + 20) ∧ decodeHops f hops.length rest = .ok hops ∧
      bs = t.bytes ++ rest := by
  constructor
  · intro h
    have hcond : ¬ (bs.length < 20 + (f.width + 20) ∨ (bs.length - 20) % (f.width + 20) ≠ 0) := by
      intro hcond
      simp only [decode, if_pos hcond] at h
      cases h
    obtain ⟨n, hn, hlen⟩ := (behind_token_iff (by omega)).mp hcond
    obtain ⟨t, rest, rfl, hrest⟩ := Address.exists_append bs (by omega)
    have hrest : rest.length = n * (f.width + 20) := by omega
    rw [decode_append hn hrest] at h
    simp only [bind_eq_ok, pure_eq_ok] at h
    obtain ⟨hops, hhops, rfl⟩ := h
    obtain rfl := length_of_decodeHops hhops
    exact ⟨t, hops, rest, List.length_pos_iff.mp hn, rfl, hrest, hhops, rfl⟩
  · rintro ⟨t, hops, rest, hne, rfl, hrest, hhops, rfl⟩
    rw [decode_append (List.length_pos_iff.mpr hne) hrest, hhops]
    rfl

/-- A path is written as just the bytes that are read as it. -/
lemma encode_iff_decode (hf : f.Exact Fits) {p : Packed ι} {bs : Bytes} :
    p.encode f = .ok bs ↔ decode f bs = .ok p := by
  rw [encode_eq_ok, decode_eq_ok]
  simp only [encodeHops_eq_ok hf, and_assoc]

lemma exists_encode (hf : f.Exact Fits) (p : Packed ι) :
    (∃ bs, p.encode f = .ok bs) ↔ p.IsPath ∧ ∀ i ∈ p.idents, Fits i := by
  rw [isPath_iff]
  constructor
  · rintro ⟨bs, h⟩
    obtain ⟨t, hops, rest, hne, rfl, hrest, -⟩ := encode_eq_ok.mp h
    exact ⟨⟨t, hops, hne, rfl⟩, (exists_encodeHops hf hops).mp ⟨rest, hrest⟩⟩
  · rintro ⟨⟨t, hops, hne, rfl⟩, hfits⟩
    obtain ⟨rest, hrest⟩ := (exists_encodeHops hf hops).mpr hfits
    exact ⟨_, encode_eq_ok.mpr ⟨t, hops, rest, hne, rfl, hrest, rfl⟩⟩

lemma exists_decode (hf : f.Exact Fits) (bs : Bytes) :
    (∃ p, decode f bs = .ok p) ↔ ∃ k, 1 ≤ k ∧ bs.length = 20 + k * (f.width + 20) := by
  constructor
  · rintro ⟨p, h⟩
    obtain ⟨t, hops, rest, hne, -, hrest, -, rfl⟩ := decode_eq_ok.mp h
    exact ⟨hops.length, List.length_pos_iff.mpr hne, by
      rw [List.length_append, t.length_bytes, hrest]⟩
  · rintro ⟨k, hk, hlen⟩
    obtain ⟨t, rest, rfl, hrest⟩ := Address.exists_append bs (by omega)
    have hrest : rest.length = k * (f.width + 20) := by omega
    obtain ⟨hops, hhops⟩ := exists_decodeHops hf hrest
    exact ⟨ofHops t hops, by rw [decode_append hk hrest, hhops]; rfl⟩

lemma IsPath.reverse {p : Packed ι} (h : p.IsPath) : p.reverse.IsPath := by
  simpa [IsPath, Packed.reverse] using h

end Packed

namespace IdentFormat

/-- Packed paths and byte strings correspond. Just the paths whose identifiers fit are written, just
the strings of a token and at least one record are read, writing and reading undo each other, and
what can be written can be written, and read, from its other end too. -/
structure Bijective (f : IdentFormat ι) (Fits : ι → Prop) : Prop where
  exists_encode : ∀ p : Packed ι, (∃ bs, p.encode f = .ok bs) ↔
    2 ≤ p.tokens.length ∧ p.idents.length + 1 = p.tokens.length ∧ ∀ i ∈ p.idents, Fits i
  decode_encode : ∀ (p : Packed ι) bs, p.encode f = .ok bs → Packed.decode f bs = .ok p
  decode_reverse : ∀ (p : Packed ι) bs, p.encode f = .ok bs →
    ∃ back, p.reverse.encode f = .ok back ∧ Packed.decode f back = .ok p.reverse
  exists_decode : ∀ bs, (∃ p, Packed.decode f bs = .ok p) ↔
    ∃ k, 1 ≤ k ∧ bs.length = 20 + k * (f.width + 20)
  encode_decode : ∀ bs (p : Packed ι), Packed.decode f bs = .ok p → p.encode f = .ok bs

lemma Exact.bijective (hf : f.Exact Fits) : f.Bijective Fits where
  exists_encode p := by rw [Packed.exists_encode hf, Packed.IsPath, and_assoc]
  decode_encode _ _ := (Packed.encode_iff_decode hf).mp
  decode_reverse p bs h := by
    obtain ⟨hpath, hfits⟩ := (Packed.exists_encode hf p).mp ⟨bs, h⟩
    have hback : ∀ i ∈ p.reverse.idents, Fits i := fun i hi => hfits i (List.mem_reverse.mp hi)
    obtain ⟨back, hencode⟩ := (Packed.exists_encode hf p.reverse).mpr ⟨hpath.reverse, hback⟩
    exact ⟨back, hencode, (Packed.encode_iff_decode hf).mp hencode⟩
  exists_decode := Packed.exists_decode hf
  encode_decode _ _ := (Packed.encode_iff_decode hf).mpr

/-- **Packed paths and their bytes are in bijection**, over fees below `2 ^ 24` and over
deployers. -/
theorem packed_bijective :
    fee.Bijective (fun i => i.toNat < 2 ^ 24) ∧ deployer.Bijective fun _ => True :=
  ⟨fee_exact.bijective, deployer_exact.bijective⟩

end IdentFormat

end SwapPlan.Path

import SwapPlan.Proofs.Ledger.Basic
import SwapPlan.Proofs.Path.Packed

/-!
Where the path of a swap begins and ends. Whatever its form and direction, it leads from the first
currency of its route to the last.
-/

namespace SwapPlan.Path.Packed

variable {ι : Type} {f : IdentFormat ι}

lemma encodeHops_last {hops : List (ι × Address)} {bs : Bytes} {t : Address}
    (h : encodeHops f hops = .ok bs) (ht : (hops.map Prod.snd).getLast? = some t) :
    ∃ init, bs = init ++ t.bytes := by
  induction hops generalizing bs with
  | nil => simp at ht
  | cons hop hops ih =>
      obtain ⟨i, u⟩ := hop
      obtain ⟨ident, rest, -, hrest, rfl⟩ := encodeHops_cons.mp h
      rcases hops with _ | ⟨hop', hops⟩
      · obtain rfl : u = t := by simpa using ht
        obtain rfl := Except.ok.inj hrest
        exact ⟨ident, by rw [List.append_nil]⟩
      · rw [List.map_cons, List.map_cons, List.getLast?_cons_cons, ← List.map_cons] at ht
        obtain ⟨init, rfl⟩ := ih hrest ht
        exact ⟨ident ++ u.bytes ++ init, by simp only [List.append_assoc]⟩

/-- A packed path begins with its first token and ends with its last. -/
lemma encode_ends {p : Packed ι} {bs : Bytes} (h : p.encode f = .ok bs) :
    ∃ a z rest init, p.tokens.head? = some a ∧ p.tokens.getLast? = some z ∧
      bs = a.bytes ++ rest ∧ bs = init ++ z.bytes := by
  obtain ⟨t, hops, rest, hne, rfl, hrest, rfl⟩ := encode_eq_ok.mp h
  obtain ⟨z, hz⟩ : ∃ z, (hops.map Prod.snd).getLast? = some z :=
    ⟨_, List.getLast?_eq_some_getLast (List.map_eq_nil_iff.not.mpr hne)⟩
  obtain ⟨init, rfl⟩ := encodeHops_last hrest hz
  exact ⟨t, z, init ++ z.bytes, t.bytes ++ init, rfl, by rw [ofHops, List.getLast?_cons, hz]; rfl,
    rfl, by rw [List.append_assoc]⟩

end SwapPlan.Path.Packed

namespace SwapPlan.SwapPath

open SwapPlan.Path (Packed IdentFormat)

lemma ends_of_bytes {side : TradeType} {bs rest init : Bytes} {a z : Address}
    (ha : bs = a.bytes ++ rest) (hz : bs = init ++ z.bytes) :
    ends side (.fees bs) = (match side with
      | .exactInput => some (a, z)
      | .exactOutput => some (z, a)) := by
  have hlen : ¬ bs.length < 20 := by rw [ha, List.length_append, a.length_bytes]; omega
  have hdrop : bs.drop (bs.length - 20) = z.bytes ++ [] := by
    rw [hz, List.length_append, z.length_bytes, Nat.add_sub_cancel, List.drop_left,
      List.append_nil]
  have hfirst : Address.ofLeading bs = a := by rw [ha, Address.ofLeading_append]
  have hlast : Address.ofLeading (bs.drop (bs.length - 20)) = z := by
    rw [hdrop, Address.ofLeading_append]
  cases side <;> simp only [ends, if_neg hlen, hfirst, hlast]

lemma ends_pack {ι : Type} {f : IdentFormat ι} {p : Packed ι} {side : TradeType} {bs : Bytes}
    {a z : Address} (h : pack f p side = .ok bs) (ha : p.tokens.head? = some a)
    (hz : p.tokens.getLast? = some z) : ends side (.fees bs) = some (a, z) := by
  cases side with
  | exactInput =>
      obtain ⟨a', z', rest, init, ha', hz', hrest, hinit⟩ := Path.Packed.encode_ends h
      rw [ha, Option.some.injEq] at ha'
      rw [hz, Option.some.injEq] at hz'
      rw [ends_of_bytes hrest hinit, ha', hz']
  | exactOutput =>
      obtain ⟨z', a', rest, init, hz', ha', hrest, hinit⟩ := Path.Packed.encode_ends h
      rw [Packed.reverse, List.head?_reverse, hz, Option.some.injEq] at hz'
      rw [Packed.reverse, List.getLast?_reverse, ha, Option.some.injEq] at ha'
      rw [ends_of_bytes hrest hinit, ha', hz']

/-- A path through pools leads from the first of its currencies to the last. -/
lemma ends_through {protocol : Protocol} {path : List Currency} {pools : List Pool}
    {side : TradeType} {p : SwapPath} (h : through protocol path pools side = .ok p)
    (hne : path ≠ []) :
    p.ends side = some ((path.head hne).address, (path.getLast hne).address) := by
  have ha : (path.map Currency.address).head? = some (path.head hne).address := by
    rw [List.head?_map, List.head?_eq_some_head hne, Option.map_some]
  have hz : (path.map Currency.address).getLast? = some (path.getLast hne).address := by
    rw [List.getLast?_map, List.getLast?_eq_some_getLast hne, Option.map_some]
  cases protocol with
  | v2 =>
      simp only [through, Except.ok.injEq] at h
      subst h
      simp [ends, ha, hz]
  | v3 =>
      simp only [through, bind_eq_ok, pure_eq_ok] at h
      obtain ⟨fees, -, bs, hbs, rfl⟩ := h
      exact ends_pack hbs ha hz
  | integral =>
      simp only [through, bind_eq_ok, pure_eq_ok] at h
      obtain ⟨deployers, -, bs, hbs, rfl⟩ := h
      exact ends_pack hbs ha hz

lemma ends_ofRoute {r : PoolRoute} {side : TradeType} {p : SwapPath}
    (h : ofRoute r side = .ok p) : p.ends side = some (r.input.address, r.output.address) :=
  ends_through h r.path_ne_nil

lemma ends_ofSwap {a b : Currency} {pool : Pool} {side : TradeType} {p : SwapPath}
    (h : ofSwap a b pool side = .ok p) : p.ends side = some (a.address, b.address) :=
  ends_through h (List.cons_ne_nil a [b])

end SwapPlan.SwapPath

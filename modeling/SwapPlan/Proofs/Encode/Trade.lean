import SwapPlan.Encode.Trade
import SwapPlan.Proofs.Trade.Totals

/-!
The commands of a trade, taken apart: what takes the input in, the routes one after another, and
what pays out and returns the rest.
-/

namespace SwapPlan

lemma Permit.fault?_eq_none {p : Permit} {spends : Address} : p.fault? spends = none ↔
    p.token = spends ∧ p.expiration.toNat < 2 ^ 48 ∧ p.nonce.toNat < 2 ^ 48 := by
  unfold fault?
  split_ifs with htoken hrange
  · simp [htoken]
  · simp only [Command.Input.maxUint48] at hrange
    simp only [false_iff]
    omega
  · simp only [Command.Input.maxUint48] at hrange
    simp only [true_iff]
    exact ⟨by simpa using htoken, by omega, by omega⟩

namespace Trade

variable {t : Trade} {o : SwapOptions} {cs : List Command} {value : Amount}

/-- To whom the routes pay their output. -/
def payee (t : Trade) (o : SwapOptions) : Address :=
  if t.needsCustody then Sentinel.router else o.recipient

/-- The commands after the routes: the output if the router holds it, what is left of the input,
and what is left of the native currency. -/
def closing (t : Trade) (o : SwapOptions) (least : Amount) : List Command :=
  (if t.needsCustody then [payout t.output o.recipient least] else []) ++
    ((if t.tradeType = .exactOutput then [payout t.input o.recipient 0] else []) ++
      if o.safeMode then [.sweep Sentinel.native o.recipient 0] else [])

lemma permitFault?_eq_none (h : t.commands o = .ok (cs, value)) :
    t.permitFault? o.permit = none := by
  cases hpermit : t.permitFault? o.permit with
  | none => rfl
  | some e =>
      rw [commands, hpermit] at h
      obtain ⟨_, hthrow, -⟩ := bind_eq_ok.mp h
      exact absurd hthrow throw_ne_ok

lemma permitFault?_iff {permit : Option Permit} : t.permitFault? permit = none ↔
    (t.input.isNative = true → permit = none) ∧ ∀ p ∈ permit, p.fault? t.input.address = none := by
  cases permit with
  | none => simp [permitFault?]
  | some p =>
      rw [permitFault?]
      split_ifs with hnative <;> simp [hnative]

lemma commands_eq_ok (h : t.commands o = .ok (cs, value)) :
    ∃ minOut maxIn intake routes delivered, t.minimumOut o.slippage = .ok minOut ∧
      t.maximumIn o.slippage = .ok maxIn ∧ t.intake maxIn = .ok intake ∧
      t.routeCommands o 0 t.swaps = .ok (routes, delivered) ∧
      cs = o.permit.toList.map .permit2Permit ++ intake :: (routes ++ t.closing o
        (match t.tradeType with
          | .exactInput => minOut
          | .exactOutput => delivered)) ∧
      value = if t.input.isNative then maxIn else 0 := by
  have hpermit := permitFault?_eq_none h
  unfold commands at h
  simp only [hpermit, bind_eq_ok, pure_eq_ok, Prod.mk.injEq, Prod.exists] at h
  obtain ⟨minOut, hmin, maxIn, hmax, intake, hintake, routes, delivered, hroutes, rfl, rfl⟩ := h
  refine ⟨minOut, maxIn, intake, routes, delivered, hmin, hmax, hintake, hroutes, ?_, rfl⟩
  cases htype : t.tradeType <;> simp [closing, htype]

lemma plan_eq_ok {p : Plan} :
    t.plan o = .ok (p, value) ↔ ∃ cs, t.commands o = .ok (cs, value) ∧ p = .ofCommands cs := by
  simp only [plan, bind_eq_ok, pure_eq_ok, Prod.mk.injEq, Prod.exists]
  constructor
  · rintro ⟨cs, _, h, rfl, rfl⟩
    exact ⟨cs, h, rfl⟩
  · rintro ⟨cs, h, rfl⟩
    exact ⟨cs, value, h, rfl, rfl⟩

lemma intake_eq_ok {maxIn : Amount} {c : Command} (h : t.intake maxIn = .ok c) :
    (t.input.isNative = true ∧ c = .wrapEth Sentinel.router maxIn) ∨
      t.input.isNative = false ∧ ∃ amount : BitVec 160, amount.toNat = maxIn.toNat ∧
        c = .permit2TransferFrom t.input.address Sentinel.router amount := by
  unfold intake at h
  split at h
  · rename_i hnative
    exact .inl ⟨hnative, (Except.ok.inj h).symm⟩
  · rename_i hnative
    split at h
    · rename_i hlt
      exact .inr ⟨by simpa using hnative, _, BitVec.toNat_ofNatLT .., (Except.ok.inj h).symm⟩
    · simp at h

lemma routeCommands_nil {delivered : Amount} :
    t.routeCommands o delivered [] = .ok ([], delivered) := rfl

lemma routeCommands_cons {delivered total : Amount} {s : TradeSwap} {swaps : List TradeSwap} :
    t.routeCommands o delivered (s :: swaps) = .ok (cs, total) ↔
      ∃ terms cs' out delivered' rest, t.terms o s = .ok terms ∧
        s.route.encode terms = .ok (cs', out) ∧
        delivered'.toNat = delivered.toNat + out.toNat ∧
        t.routeCommands o delivered' swaps = .ok (rest, total) ∧ cs = cs' ++ rest := by
  simp only [routeCommands, bind_eq_ok, Prod.exists]
  constructor
  · rintro ⟨terms, hterms, cs', out, hencode, h⟩
    split at h
    · exact absurd h throw_ne_ok
    · rename_i delivered' hadd
      simp only [bind_eq_ok, pure_eq_ok, Prod.mk.injEq, Prod.exists] at h
      obtain ⟨rest, total', hrest, rfl, rfl⟩ := h
      exact ⟨terms, cs', out, delivered', rest, hterms, hencode, Amount.add?_eq_some_iff.mp hadd,
        hrest, rfl⟩
  · rintro ⟨terms, cs', out, delivered', rest, hterms, hencode, hadd, hrest, rfl⟩
    refine ⟨terms, hterms, cs', out, hencode, ?_⟩
    rw [Amount.add?_eq_some_iff.mpr hadd]
    simp only [bind_eq_ok, pure_eq_ok, Prod.mk.injEq, Prod.exists]
    exact ⟨rest, total, hrest, rfl, rfl⟩

/-- What a swap becomes in a plan: the commands of its route, and the least that they deliver. -/
def Block (t : Trade) (o : SwapOptions) (s : TradeSwap) (b : List Command × Amount) : Prop :=
  ∃ terms, t.terms o s = .ok terms ∧ s.route.encode terms = .ok b

/-- The swaps of a trade become one block after another, and their deliveries are added up. -/
lemma exists_blocks {before total : Amount} {swaps : List TradeSwap}
    (h : t.routeCommands o before swaps = .ok (cs, total)) :
    ∃ blocks, List.Forall₂ (t.Block o) swaps blocks ∧ cs = blocks.flatMap Prod.fst ∧
      total.toNat = before.toNat + (blocks.map fun b => b.2.toNat).sum := by
  induction swaps generalizing before cs with
  | nil =>
      rw [routeCommands_nil, Except.ok.injEq, Prod.mk.injEq] at h
      obtain ⟨rfl, rfl⟩ := h
      exact ⟨[], .nil, rfl, rfl⟩
  | cons s swaps ih =>
      obtain ⟨terms, cs', out, before', rest, hterms, hencode, hadd, hrest, rfl⟩ :=
        routeCommands_cons.mp h
      obtain ⟨blocks, hblocks, rfl, htotal⟩ := ih hrest
      refine ⟨(cs', out) :: blocks, .cons ⟨terms, hterms, hencode⟩ hblocks, rfl, ?_⟩
      rw [htotal, hadd, List.map_cons, List.sum_cons, Nat.add_assoc]

/-! ### Terms -/

lemma terms_exactInput {s : TradeSwap} {terms : RouteTerms} (ht : t.tradeType = .exactInput)
    (h : t.terms o s = .ok terms) :
    terms.tradeType = .exactInput ∧ terms.recipient = t.payee o ∧
      terms.amountIn = s.inputAmount ∧
      if t.isAggregated then terms.amountOut = 0
      else o.slippage.discount s.outputAmount = .ok terms.amountOut := by
  cases hagg : t.isAggregated with
  | false =>
      simp only [Trade.terms, ht, hagg, TradeSwap.minimumOut, Bool.false_eq_true, if_false,
        bind_eq_ok, pure_eq_ok] at h ⊢
      obtain ⟨least, hleast, rfl⟩ := h
      exact ⟨rfl, rfl, rfl, hleast⟩
  | true =>
      simp only [Trade.terms, ht, hagg, if_true, bind_eq_ok, pure_eq_ok] at h ⊢
      obtain ⟨least, rfl, rfl⟩ := h
      exact ⟨rfl, rfl, rfl, rfl⟩

lemma terms_exactOutput {s : TradeSwap} {terms : RouteTerms} (ht : t.tradeType = .exactOutput)
    (h : t.terms o s = .ok terms) :
    terms.tradeType = .exactOutput ∧ terms.recipient = t.payee o ∧
      terms.amountIn.toNat = o.slippage.raise s.inputAmount.toNat ∧
      terms.amountOut = s.outputAmount ∧ terms.quotedIn = s.inputAmount ∧
      terms.stepAmountsOut = s.stepAmountsOut ∧ terms.buffer = o.buffer := by
  simp only [Trade.terms, ht, bind_eq_ok, pure_eq_ok] at h
  obtain ⟨most, hmost, rfl⟩ := h
  exact ⟨rfl, rfl, Percent.toNat_premium hmost, rfl, rfl, rfl, rfl⟩

lemma terms_tradeType {s : TradeSwap} {terms : RouteTerms} (h : t.terms o s = .ok terms) :
    terms.tradeType = t.tradeType ∧ terms.recipient = t.payee o := by
  cases ht : t.tradeType with
  | exactInput =>
      obtain ⟨htype, hpayee, -⟩ := terms_exactInput ht h
      exact ⟨htype, hpayee⟩
  | exactOutput =>
      obtain ⟨htype, hpayee, -⟩ := terms_exactOutput ht h
      exact ⟨htype, hpayee⟩

end Trade

end SwapPlan

import SwapPlan.Proofs.Encode.Delivered
import SwapPlan.Proofs.Path.Packed
import SwapPlan.Proofs.Trade.Budgets

/-!
Which trades have a plan. Sound routes leave the encoder nothing to refuse but numbers without room
in a plan, a permit that does not fit the input, and boosted routes that lack what a fixed output is
traced back by.
-/

namespace SwapPlan

/-! ### Paths -/

/-- The fee of a pool has room in a path, if paths over its protocol carry it. -/
def Pool.Packable (p : Pool) : Prop := p.protocol = .v3 → p.fee.toNat < 2 ^ 24

namespace SwapPath

open SwapPlan.Path (Packed IdentFormat)

variable {side : TradeType} {p : Pool} {pools : List Pool}

lemma poolFee_of_v3 (h : p.protocol = .v3) : poolFee p = .ok p.fee := by
  obtain ⟨_, _, state⟩ := p
  cases state with
  | v3 => rfl
  | v2 | integral => cases h

lemma mapM_poolFee (h : ∀ p ∈ pools, p.protocol = .v3) :
    pools.mapM poolFee = .ok (pools.map Pool.fee) := by
  rw [mapM_eq_ok, List.forall₂_map_right_iff, List.forall₂_same]
  exact fun p hp => poolFee_of_v3 (h p hp)

lemma exists_poolDeployer (h : p.protocol = .integral) : ∃ d, poolDeployer p = .ok d := by
  obtain ⟨_, _, state⟩ := p
  cases state with
  | integral deployer => exact ⟨deployer, rfl⟩
  | v2 | v3 => cases h

lemma exists_pack {ι : Type} {f : IdentFormat ι} {Fits : ι → Prop} (hf : f.Exact Fits)
    {path : Packed ι} (hpath : path.IsPath) :
    (∃ bs, pack f path side = .ok bs) ↔ ∀ i ∈ path.idents, Fits i := by
  cases side with
  | exactInput => exact (Packed.exists_encode hf path).trans (and_iff_right hpath)
  | exactOutput =>
      refine (Packed.exists_encode hf path.reverse).trans ((and_iff_right hpath.reverse).trans ?_)
      simp only [Packed.reverse, List.mem_reverse]

/-- Through pools of one protocol a path is written unless a fee has no room in it. -/
lemma exists_through {protocol : Protocol} {path : List Currency} (hne : pools ≠ [])
    (hlen : path.length = pools.length + 1) (hp : ∀ p ∈ pools, p.protocol = protocol) :
    (∃ sp, through protocol path pools side = .ok sp) ↔ ∀ p ∈ pools, p.Packable := by
  have hpath {ι : Type} {idents : List ι} (hidents : idents.length = pools.length) :
      (Packed.mk (path.map Currency.address) idents).IsPath := by
    have hpos := List.length_pos_iff.mpr hne
    refine ⟨?_, ?_⟩
    · rw [List.length_map]
      omega
    · rw [List.length_map, hlen, hidents]
  have hnot (hother : protocol ≠ .v3) : ∀ p ∈ pools, p.Packable :=
    fun p hmem hv3 => absurd ((hp p hmem).symm.trans hv3) hother
  cases protocol with
  | v2 => exact iff_of_true ⟨_, rfl⟩ (hnot (by decide))
  | v3 =>
      have hpack : (∃ bs, pack .fee _ side = .ok bs) ↔ _ :=
        exists_pack Path.IdentFormat.fee_exact (hpath (List.length_map Pool.fee))
      simp only [through, mapM_poolFee hp, bind_eq_ok, pure_eq_ok, Except.ok.injEq, exists_eq_left']
      constructor
      · rintro ⟨_, bs, hbs, -⟩ p hmem -
        exact hpack.mp ⟨bs, hbs⟩ _ (List.mem_map_of_mem hmem)
      · intro hfit
        obtain ⟨bs, hbs⟩ := hpack.mpr (List.forall_mem_map.mpr fun p hmem => hfit p hmem (hp p hmem))
        exact ⟨_, bs, hbs, rfl⟩
  | integral =>
      refine iff_of_true ?_ (hnot (by decide))
      obtain ⟨deployers, hdeployers⟩ := exists_mapM.mpr fun p hmem => exists_poolDeployer (hp p hmem)
      have hlen := (mapM_eq_ok.mp hdeployers).length_eq.symm
      obtain ⟨bs, hbs⟩ : ∃ bs, pack .deployer _ side = .ok bs :=
        (exists_pack Path.IdentFormat.deployer_exact (hpath hlen)).mpr fun _ _ => trivial
      simp only [through, hdeployers, bind_eq_ok, pure_eq_ok, Except.ok.injEq, exists_eq_left']
      exact ⟨_, bs, hbs, rfl⟩

end SwapPath

/-! ### Routes -/

section Steps

variable {side : TradeType} {payee : Address} {amount least out : Amount} {s : Step}
  {steps : List Step}

/-- A step is written as a command unless the fee of its pool has no room. -/
def Step.Packable (s : Step) : Prop := ∀ p ∈ s.pool?, p.Packable

lemma Step.exists_command :
    (∃ c, s.command side payee amount least = .ok c) ↔ s.Packable := by
  cases s with
  | wrap v | unwrap v => exact iff_of_true ⟨_, rfl⟩ fun p hp => by cases hp
  | swap a b p =>
      have hpath : (∃ path, SwapPath.ofSwap a b p side = .ok path) ↔
          ∀ q ∈ [p], Pool.Packable q :=
        SwapPath.exists_through (List.cons_ne_nil p []) rfl (List.forall_mem_singleton.mpr rfl)
      rw [List.forall_mem_singleton] at hpath
      refine exists_bind_pure.trans (hpath.trans ?_)
      simp only [Step.Packable, Step.pool?, Option.mem_some_iff, forall_eq']

namespace BoostedRoute

lemma exists_exactInputCommands :
    (∃ cs, exactInputCommands payee least amount steps = .ok cs) ↔ ∀ s ∈ steps, s.Packable := by
  induction steps generalizing amount with
  | nil => exact iff_of_true ⟨[], rfl⟩ fun s hs => absurd hs List.not_mem_nil
  | cons s steps ih =>
      rcases steps with _ | ⟨s', steps⟩
      · rw [List.forall_mem_singleton]
        exact exists_bind_pure.trans Step.exists_command
      · rw [List.forall_mem_cons, ← Step.exists_command]
        exact exists_bind fun c _ => exists_bind_pure.trans ih

lemma exists_exactOutputCommand :
    (∃ c, exactOutputCommand payee amount least out s = .ok c) ↔ s.Packable := by
  unfold exactOutputCommand
  split_ifs <;> exact Step.exists_command

lemma exists_exactOutputCommands {pairs : List (Step × Amount)} :
    (∃ cs, exactOutputCommands payee least amount pairs = .ok cs) ↔
      ∀ sa ∈ pairs, sa.1.Packable := by
  induction pairs generalizing amount with
  | nil => exact iff_of_true ⟨[], rfl⟩ fun sa hsa => absurd hsa List.not_mem_nil
  | cons sa pairs ih =>
      rcases pairs with _ | ⟨sa', pairs⟩
      · rw [List.forall_mem_singleton]
        exact exists_bind_pure.trans exists_exactOutputCommand
      · rw [List.forall_mem_cons, ← exists_exactOutputCommand]
        exact exists_bind fun c _ => exists_bind_pure.trans ih

lemma exists_exactOutputCommands_zip {amounts : List Amount}
    (hlen : amounts.length = steps.length) :
    (∃ cs, exactOutputCommands payee least amount (steps.zip amounts) = .ok cs) ↔
      ∀ s ∈ steps, s.Packable := by
  have hsteps : (steps.zip amounts).map Prod.fst = steps :=
    List.map_fst_zip (Nat.le_of_eq hlen.symm)
  rw [exists_exactOutputCommands, ← List.forall_mem_map (P := Step.Packable), hsteps]

variable {r : BoostedRoute} {t : RouteTerms}

/-- The swaps of a route take all its pools. -/
lemma forall_steps_packable : (∀ s ∈ r.steps, s.Packable) ↔ ∀ p ∈ r.pools, p.Packable := by
  obtain ⟨-, -, -, -, hpools⟩ := steps?_eq_ok.mp r.sound
  rw [hpools]
  simp only [Step.Packable, List.mem_filterMap, forall_exists_index, and_imp]
  exact ⟨fun h p s hs hp => h s hs p hp, fun h s hs p hp => h p s hs hp⟩

/-- What a route with a fixed output is traced back by: it has at most one swap, an amount for each
step, and a last amount whose margin can be formed if a vault step puts it out. -/
def Traceable (r : BoostedRoute) (buffer : RoundingBuffer) (stepAmounts : Option (List Amount)) :
    Prop :=
  r.swapCount ≤ 1 ∧ ∃ amounts, stepAmounts = some amounts ∧ amounts.length = r.steps.length ∧
    (r.endsInSwap = false → buffer.bps ≠ 0 →
      ∀ last ∈ amounts.getLast?, last.toNat * buffer.bps.toNat < 2 ^ 256)

lemma exists_delivered {buffer : RoundingBuffer} {amounts : List Amount} :
    (∃ d, r.delivered buffer amounts = .ok d) ↔ (r.endsInSwap = false → buffer.bps ≠ 0 →
      ∀ last ∈ amounts.getLast?, last.toNat * buffer.bps.toNat < 2 ^ 256) := by
  change (∃ d, (if r.endsInSwap then _ else _) = _) ↔ _
  cases r.endsInSwap with
  | true => simp
  | false =>
      simp only [Bool.false_eq_true, if_false, RoundingBuffer.exists_apply, true_imp_iff]
      cases amounts.getLast? <;> simp

lemma exists_encode : (∃ e, r.encode t = .ok e) ↔
    (∀ p ∈ r.pools, p.Packable) ∧
      (t.tradeType = .exactOutput → r.Traceable t.buffer t.stepAmountsOut) := by
  rw [← forall_steps_packable, encode.eq_def]
  cases t.tradeType with
  | exactInput =>
      rw [and_iff_left (by simp)]
      exact exists_bind_pure.trans exists_exactInputCommands
  | exactOutput =>
      simp only [bind_eq_ok, pure_eq_ok, true_imp_iff, outputAmounts_eq_ok]
      constructor
      · rintro ⟨_, amounts, ⟨hcount, hsome, hlen⟩, d, hd, cs, hcs, -⟩
        exact ⟨(exists_exactOutputCommands_zip hlen).mp ⟨cs, hcs⟩, hcount, amounts, hsome, hlen,
          exists_delivered.mp ⟨d, hd⟩⟩
      · rintro ⟨hsteps, hcount, amounts, hsome, hlen, hlast⟩
        obtain ⟨d, hd⟩ := exists_delivered.mpr hlast
        obtain ⟨cs, hcs⟩ := (exists_exactOutputCommands_zip hlen).mpr hsteps
        exact ⟨_, amounts, ⟨hcount, hsome, hlen⟩, d, hd, cs, hcs, rfl⟩

end BoostedRoute

end Steps

lemma PoolRoute.exists_encode {r : PoolRoute} {t : RouteTerms} :
    (∃ e, r.encode t = .ok e) ↔ ∀ p ∈ r.pools, p.Packable :=
  exists_bind_pure.trans <| SwapPath.exists_through r.wellFormed.pools_ne_nil
    r.wellFormed.length_path r.wellFormed.protocol

/-- A route is written unless the fee of a pool has no room or, with a fixed output, it cannot be
traced back. -/
lemma Route.exists_encode {r : Route} {t : RouteTerms} :
    (∃ e, r.encode t = .ok e) ↔ (∀ p ∈ r.pools, p.Packable) ∧
      (t.tradeType = .exactOutput → ∀ b, r = .boosted b →
        b.Traceable t.buffer t.stepAmountsOut) := by
  cases r with
  | pooled r => exact PoolRoute.exists_encode.trans (by simp [pools])
  | boosted r => exact BoostedRoute.exists_encode.trans (by simp [pools])

/-! ### Trades -/

namespace Trade

variable {t : Trade} {o : SwapOptions} {s : TradeSwap}

/-- A swap whose route is written. -/
def Writable (t : Trade) (o : SwapOptions) (s : TradeSwap) : Prop :=
  (∀ p ∈ s.route.pools, p.Packable) ∧ (t.tradeType = .exactOutput → ∀ r, s.route = .boosted r →
    r.Traceable o.buffer s.stepAmountsOut)

/-- What the encoder counts as delivered by a swap. -/
def counted (t : Trade) (o : SwapOptions) (s : TradeSwap) : Nat :=
  match t.tradeType with
  | .exactInput => if t.isAggregated then 0 else o.slippage.lower s.outputAmount.toNat
  | .exactOutput => s.delivered o.buffer

lemma exists_terms {minOut maxIn : Amount} (hmin : t.minimumOut o.slippage = .ok minOut)
    (hmax : t.maximumIn o.slippage = .ok maxIn) (hs : s ∈ t.swaps) :
    ∃ terms, t.terms o s = .ok terms := by
  cases ht : t.tradeType with
  | exactInput =>
      have hleast := exists_minimumOut_of_mem ht hmin hs
      simp only [terms, ht] at hleast ⊢
      cases t.isAggregated with
      | true => exact ⟨_, rfl⟩
      | false => exact exists_bind_pure.mpr hleast
  | exactOutput =>
      have hmost := exists_maximumIn_of_mem ht hmax hs
      simp only [terms, ht] at hmost ⊢
      exact exists_bind_pure.mpr hmost

lemma writable_iff {terms : RouteTerms} (h : t.terms o s = .ok terms) :
    (∃ e, s.route.encode terms = .ok e) ↔ t.Writable o s := by
  rw [Route.exists_encode, Writable]
  cases ht : t.tradeType with
  | exactInput =>
      obtain ⟨htype, -⟩ := terms_exactInput ht h
      simp [htype]
  | exactOutput =>
      obtain ⟨htype, -, -, -, -, hamounts, hbuffer⟩ := terms_exactOutput ht h
      rw [htype, hamounts, hbuffer]

lemma toNat_counted {terms : RouteTerms} {cs : List Command} {out : Amount}
    (hterms : t.terms o s = .ok terms) (h : s.route.encode terms = .ok (cs, out)) :
    out.toNat = t.counted o s := by
  cases ht : t.tradeType with
  | exactOutput => rw [toNat_of_encode ht hterms h, counted, ht]
  | exactInput =>
      obtain ⟨htype, -, -, hout⟩ := terms_exactInput ht hterms
      rw [Route.least_of_exactInput htype h, counted, ht]
      split_ifs at hout ⊢
      · rw [hout]
        rfl
      · exact (Percent.discount_eq_ok.mp hout).2

/-- The swaps of a trade are written where each of them is and what they deliver has room. -/
lemma exists_routeCommands {before : Amount} {swaps : List TradeSwap}
    (hterms : ∀ s ∈ swaps, ∃ terms, t.terms o s = .ok terms) :
    (∃ e, t.routeCommands o before swaps = .ok e) ↔ (∀ s ∈ swaps, t.Writable o s) ∧
      before.toNat + (swaps.map (t.counted o)).sum < 2 ^ 256 := by
  induction swaps generalizing before with
  | nil =>
      refine iff_of_true ⟨_, rfl⟩ ⟨fun s hs => absurd hs List.not_mem_nil, ?_⟩
      exact before.isLt
  | cons s swaps ih =>
      rw [List.forall_mem_cons] at hterms
      obtain ⟨⟨terms, hs⟩, hswaps⟩ := hterms
      rw [List.forall_mem_cons, List.map_cons, List.sum_cons, ← Nat.add_assoc, ← writable_iff hs]
      constructor
      · rintro ⟨⟨cs, total⟩, h⟩
        obtain ⟨terms', cs', out, before', rest, hterms', hencode, hadd, hrest, -⟩ :=
          routeCommands_cons.mp h
        obtain rfl := Except.ok.inj (hs.symm.trans hterms')
        obtain ⟨hwritable, hlt⟩ := (ih hswaps).mp ⟨_, hrest⟩
        rw [hadd, toNat_counted hs hencode] at hlt
        exact ⟨⟨⟨_, hencode⟩, hwritable⟩, hlt⟩
      · rintro ⟨⟨⟨⟨cs, out⟩, hencode⟩, hwritable⟩, hlt⟩
        obtain ⟨before', hadd⟩ :=
          Amount.exists_toNat (Nat.lt_of_le_of_lt (Nat.le_add_right _ _) hlt)
        rw [← hadd] at hlt
        obtain ⟨⟨rest, total⟩, hrest⟩ := (ih hswaps).mpr ⟨hwritable, hlt⟩
        rw [← toNat_counted hs hencode] at hadd
        exact ⟨_, routeCommands_cons.mpr
          ⟨terms, cs, out, before', rest, hs, hencode, hadd, hrest, rfl⟩⟩

/-- What the routes of a fixed input are to deliver is less than their output. -/
lemma sum_counted_lt (ht : t.tradeType = .exactInput) :
    (t.swaps.map (t.counted o)).sum < 2 ^ 256 := by
  have hle (s : TradeSwap) : t.counted o s ≤ s.outputAmount.toNat := by
    rw [counted, ht]
    split_ifs
    · exact Nat.zero_le _
    · exact o.slippage.lower_le _
  calc (t.swaps.map (t.counted o)).sum ≤ totalOut t.swaps :=
        List.sum_le_sum fun s _ => hle s
    _ = t.outputAmount.toNat := t.toNat_outputAmount.symm
    _ < 2 ^ 256 := t.outputAmount.isLt

lemma sum_counted (ht : t.tradeType = .exactOutput) :
    (t.swaps.map (t.counted o)).sum = t.delivered o := by
  have hcounted : t.counted o = fun s => s.delivered o.buffer := by
    funext s
    rw [counted, ht]
  rw [delivered, hcounted]

lemma exists_bounds {p : Percent} :
    ((∃ minOut, t.minimumOut p = .ok minOut) ∧ ∃ maxIn, t.maximumIn p = .ok maxIn) ↔
      p.denominator.toNat + p.numerator.toNat < 2 ^ 256 ∧
        (t.tradeType = .exactInput → totalOut t.swaps * p.denominator.toNat < 2 ^ 256) ∧
        (t.tradeType = .exactOutput →
          totalIn t.swaps * (p.denominator.toNat + p.numerator.toNat) < 2 ^ 256) := by
  cases ht : t.tradeType with
  | exactInput =>
      rw [exists_minimumOut ht]
      simp [maximumIn, ht]
  | exactOutput =>
      rw [exists_maximumIn ht]
      simp [minimumOut, ht]

lemma exists_intake {maxIn : Amount} : (∃ c, t.intake maxIn = .ok c) ↔
    (t.input.isNative = false → maxIn.toNat < 2 ^ 160) := by
  unfold intake
  split_ifs with hnative hlt
  · simp [hnative]
  · simpa [hnative] using hlt
  · simpa [hnative] using hlt

lemma exists_commands {minOut maxIn : Amount} (hpermit : t.permitFault? o.permit = none)
    (hmin : t.minimumOut o.slippage = .ok minOut) (hmax : t.maximumIn o.slippage = .ok maxIn)
    (hintake : ∃ c, t.intake maxIn = .ok c) (hroutes : ∃ e, t.routeCommands o 0 t.swaps = .ok e) :
    ∃ e, t.commands o = .ok e := by
  obtain ⟨c, hintake⟩ := hintake
  obtain ⟨e, hroutes⟩ := hroutes
  simp only [commands, hpermit, bind_eq_ok, pure_eq_ok]
  exact ⟨_, minOut, hmin, maxIn, hmax, c, hintake, e, hroutes, rfl⟩

/-- What a trade and its options have to meet for a plan. Its sums and its products with the
slippage are formed in full, a transfer moves less than `2 ^ 160`, and a path has three bytes for a
fee. A fixed output is traced back through each boosted route, and what the routes deliver is added
up. -/
structure Plannable (t : Trade) (o : SwapOptions) : Prop where
  native : t.input.isNative = true → o.permit = none
  permit : ∀ p ∈ o.permit, p.token = t.input.address ∧ p.expiration.toNat < 2 ^ 48 ∧
    p.nonce.toNat < 2 ^ 48
  whole : o.slippage.denominator.toNat + o.slippage.numerator.toNat < 2 ^ 256
  discounted : t.tradeType = .exactInput →
    totalOut t.swaps * o.slippage.denominator.toNat < 2 ^ 256
  raised : t.tradeType = .exactOutput →
    totalIn t.swaps * (o.slippage.denominator.toNat + o.slippage.numerator.toNat) < 2 ^ 256
  transfer : t.input.isNative = false →
    ∀ maxIn, t.maximumIn o.slippage = .ok maxIn → maxIn.toNat < 2 ^ 160
  fees : ∀ s ∈ t.swaps, ∀ p ∈ s.route.pools, p.protocol = .v3 → p.fee.toNat < 2 ^ 24
  traceable : t.tradeType = .exactOutput → ∀ s ∈ t.swaps, ∀ r, s.route = .boosted r →
    r.Traceable o.buffer s.stepAmountsOut
  delivered : t.tradeType = .exactOutput → t.delivered o < 2 ^ 256

/-- **A trade has a plan just if it is plannable.** -/
theorem exists_plan_iff (t : Trade) (o : SwapOptions) :
    (∃ p value, t.plan o = .ok (p, value)) ↔ t.Plannable o := by
  constructor
  · rintro ⟨p, value, h⟩
    obtain ⟨cs, h, -⟩ := plan_eq_ok.mp h
    obtain ⟨hnative, hpermit⟩ := permitFault?_iff.mp (permitFault?_eq_none h)
    obtain ⟨minOut, maxIn, c, routes, total, hmin, hmax, hintake, hroutes, -⟩ := commands_eq_ok h
    obtain ⟨hwhole, hdiscounted, hraised⟩ := exists_bounds.mp ⟨⟨minOut, hmin⟩, maxIn, hmax⟩
    obtain ⟨hwritable, hlt⟩ :=
      (exists_routeCommands fun s hs => exists_terms hmin hmax hs).mp ⟨_, hroutes⟩
    refine ⟨hnative, fun p hp => Permit.fault?_eq_none.mp (hpermit p hp), hwhole, hdiscounted,
      hraised, fun hin maxIn' hmax' => ?_, fun s hs => (hwritable s hs).1,
      fun ht s hs => (hwritable s hs).2 ht, fun ht => ?_⟩
    · obtain rfl := Except.ok.inj (hmax.symm.trans hmax')
      exact exists_intake.mp ⟨c, hintake⟩ hin
    · rwa [sum_counted ht, Amount.toNat_zero, Nat.zero_add] at hlt
  · intro h
    obtain ⟨⟨minOut, hmin⟩, maxIn, hmax⟩ := exists_bounds.mpr ⟨h.whole, h.discounted, h.raised⟩
    have hroutes : ∃ e, t.routeCommands o 0 t.swaps = .ok e := by
      refine (exists_routeCommands fun s hs => exists_terms hmin hmax hs).mpr
        ⟨fun s hs => ⟨h.fees s hs, fun ht => h.traceable ht s hs⟩, ?_⟩
      rw [Amount.toNat_zero, Nat.zero_add]
      cases ht : t.tradeType with
      | exactInput => exact sum_counted_lt ht
      | exactOutput => exact sum_counted ht ▸ h.delivered ht
    have hpermit : t.permitFault? o.permit = none := permitFault?_iff.mpr
      ⟨h.native, fun p hp => Permit.fault?_eq_none.mpr (h.permit p hp)⟩
    obtain ⟨⟨cs, value⟩, hcs⟩ := exists_commands hpermit hmin hmax
      (exists_intake.mpr fun hin => h.transfer hin maxIn hmax) hroutes
    exact ⟨_, value, plan_eq_ok.mpr ⟨cs, hcs, rfl⟩⟩

end Trade

end SwapPlan

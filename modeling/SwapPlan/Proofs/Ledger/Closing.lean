import SwapPlan.Proofs.Ledger.Fill
import SwapPlan.Proofs.Quote.Steps

/-!
Trades with a fixed output whose amounts were quoted from the market in which their plans run. A
quote walks back from the output and the plan walks forward from the budget. What reaches each step
is no less than what was quoted for it, so that no step fails and the output is met.
-/

namespace SwapPlan

/-- A market without state: what vaults convert and preview, and what paths cost for an output. A
preview asks for no less than the vault needs. -/
structure Rates where
  deposit : (vault : Address) → Nat → Nat
  redeem : (vault : Address) → Nat → Nat
  previewMint : (vault : Address) → Nat → Nat
  previewWithdraw : (vault : Address) → Nat → Nat
  cost : SwapPath → Nat → Nat
  deposit_mono : ∀ w a b, a ≤ b → deposit w a ≤ deposit w b
  redeem_mono : ∀ w a b, a ≤ b → redeem w a ≤ redeem w b
  le_deposit : ∀ w n, n ≤ deposit w (previewMint w n)
  le_redeem : ∀ w n, n ≤ redeem w (previewWithdraw w n)

namespace Rates

/-- What such a market answers to the commands of a plan with a fixed output. -/
def market (rates : Rates) : Market := fun _ c n =>
  match c with
  | .erc4626Wrap w .. => rates.deposit w n
  | .erc4626Unwrap w .. => rates.redeem w n
  | .swap .exactOutput path .. => rates.cost path n
  | _ => 0

/-- A quoter and previews that, where they answer, answer from a market. -/
structure Answers (rates : Rates) (backend : QuoterBackend Id) (vaults : VaultPreview Id) :
    Prop where
  mint : ∀ w out needed, Quoter.answer (vaults.preview .mint w out) = .ok needed →
    needed.toNat = rates.previewMint w out.toNat
  withdraw : ∀ w out needed, Quoter.answer (vaults.preview .withdraw w out) = .ok needed →
    needed.toNat = rates.previewWithdraw w out.toNat
  swap : ∀ path out raw rest output, Quoter.answer (backend.execute
      (Plan.ofCommands [QuotePlan.unbounded .exactOutput path out]).quoteCall) =
        .ok (raw :: rest) →
    QuotePlan.decodeSwap raw = .ok output → output.amount.toNat = rates.cost path out.toNat

variable {rates : Rates} {backend : QuoterBackend Id} {vaults : VaultPreview Id}
  {out needed : Amount} {steps : List Step} {amounts : List (Amount × Amount)}
  {payee : Address} {amount least : Amount} {cs : List Command}

/-- A vault step that gets no less than was quoted for it puts out what it was quoted for. -/
lemma le_market_vault (answers : rates.Answers backend vaults) {s : Step} {c : Command}
    (hs : s.isSwap = false) (hc : s.command .exactInput payee amount least = .ok c)
    (h : Quoter.answer (Quoter.stepInput backend vaults s out) = .ok needed) (i : Nat) {n : Nat}
    (hn : needed.toNat ≤ n) : out.toNat ≤ rates.market i c n := by
  cases s with
  | swap a b p => simp [Step.isSwap] at hs
  | wrap w =>
      simp only [Step.command, Except.ok.injEq] at hc
      rw [← hc]
      rw [answers.mint _ _ _ h] at hn
      exact Nat.le_trans (rates.le_deposit w.address out.toNat) (rates.deposit_mono _ _ _ hn)
  | unwrap w =>
      simp only [Step.command, Except.ok.injEq] at hc
      rw [← hc]
      rw [answers.withdraw _ _ _ h] at hn
      exact Nat.le_trans (rates.le_redeem w.address out.toNat) (rates.redeem_mono _ _ _ hn)

/-- **A chain of vault steps that gets no less than was quoted for it puts out what it was quoted
for.** -/
theorem le_passed_chain (answers : rates.Answers backend vaults)
    (hv : ∀ s ∈ steps, s.isSwap = false)
    (hcs : BoostedRoute.exactInputCommands payee least amount steps = .ok cs)
    (h : Quoter.answer (Quoter.chain backend vaults out steps) = .ok (amounts, needed)) (i : Nat)
    {n : Nat} (hn : needed.toNat ≤ n) : out.toNat ≤ rates.market.passed i cs n := by
  induction steps generalizing amount cs amounts needed i n with
  | nil =>
      obtain rfl := Except.ok.inj hcs
      obtain ⟨-, rfl⟩ := Prod.mk.inj (Except.ok.inj h)
      exact hn
  | cons s steps ih =>
      have hs := hv s List.mem_cons_self
      obtain ⟨rest, next, hrest, hinput, rfl⟩ := Quoter.answer_chain_cons.mp h
      by_cases hnil : steps = []
      · subst hnil
        obtain ⟨c, hc, rfl⟩ := BoostedRoute.exactInputCommands_singleton.mp hcs
        obtain ⟨-, rfl⟩ := Prod.mk.inj (Except.ok.inj hrest)
        exact le_market_vault answers hs hc hinput i hn
      · obtain ⟨c, cs', hc, hcs', rfl⟩ := (BoostedRoute.exactInputCommands_cons hnil).mp hcs
        exact ih (fun s hs => hv s (List.mem_cons_of_mem _ hs)) hcs' hrest (i + 1)
          (le_market_vault answers hs hc hinput i hn)

/-- A swap costs what was quoted for it. -/
lemma market_swap (answers : rates.Answers backend vaults) {a b : Currency} {p : Pool}
    {c : Command} {most : Amount}
    (hc : (Step.swap a b p).command .exactOutput payee out most = .ok c)
    (h : Quoter.answer (Quoter.stepInput backend vaults (.swap a b p) out) = .ok needed)
    (i : Nat) : rates.market i c out.toNat = needed.toNat := by
  obtain ⟨path, raw, rest, output, hpath, hraw, hdecode, rfl⟩ := Quoter.answer_stepInput_swap h
  simp only [Step.command, bind_eq_ok, pure_eq_ok] at hc
  obtain ⟨path', hpath', rfl⟩ := hc
  obtain rfl := Except.ok.inj (hpath'.symm.trans hpath)
  exact (answers.swap _ _ _ _ _ hraw hdecode).symm

/-- **Around a swap the market does what was quoted.** If the steps before it get no less than was
quoted, then the swap costs no more than reaches it, and the steps after it put out what the route
was quoted for. -/
theorem quoted_around (answers : rates.Answers backend vaults) {before after : List Step}
    {a b : Currency} {p : Pool} {front back : List Amount} {bought : Amount}
    (hbefore : ∀ s ∈ before, s.isSwap = false) (hafter : ∀ s ∈ after, s.isSwap = false)
    (h : Quoter.answer (Quoter.chain backend vaults out (before ++ .swap a b p :: after)) =
      .ok (amounts, needed))
    (hamounts : amounts.map Prod.snd = front ++ bought :: back)
    (hfront : front.length = before.length) {payee' payee'' : Address}
    {amount' least' most : Amount} {ds : List Command} {c : Command}
    (hcs : BoostedRoute.exactInputCommands payee least amount before = .ok cs)
    (hc : (Step.swap a b p).command .exactOutput payee' bought most = .ok c)
    (hds : BoostedRoute.exactInputCommands payee'' least' amount' after = .ok ds) (i : Nat) {n : Nat}
    (hn : needed.toNat ≤ n) :
    rates.market (i + cs.length) c bought.toNat ≤ rates.market.passed i cs n ∧
      out.toNat ≤ rates.market.passed (i + cs.length + 1) ds bought.toNat ∧
      (after = [] → bought = out) ∧ (after ≠ [] → back.getLast?.getD 0 = out) := by
  obtain ⟨first, price, second, hsecond, hfirst, rfl⟩ := Quoter.answer_chain_append h
  obtain ⟨rest, asked, hrest, hinput, rfl⟩ := Quoter.answer_chain_cons.mp hsecond
  -- What the swap buys is what the steps after it were quoted to need.
  rw [List.map_append, List.map_cons] at hamounts
  have hlen : (first.map Prod.snd).length = front.length := by
    rw [List.length_map, Quoter.length_of_chain hfirst, hfront]
  obtain ⟨-, hcons⟩ := List.append_inj hamounts hlen
  obtain ⟨rfl, rfl⟩ := List.cons.inj hcons
  refine ⟨?_, le_passed_chain answers hafter hds hrest _ (Nat.le_refl _), ?_, fun hne => ?_⟩
  · rw [market_swap answers hc hinput]
    exact le_passed_chain answers hbefore hcs hfirst i hn
  · rintro rfl
    obtain ⟨-, hasked⟩ := Prod.mk.inj (Except.ok.inj hrest)
    exact hasked.symm
  · rw [Quoter.last_of_chain hne hrest, Option.getD_some]

end Rates

namespace Trade

/-- A trade with a fixed output whose amounts were quoted from a market: each boosted route takes
in what its steps need and carries what they put out, and each route through pools takes in no less
than it costs. -/
structure Quoted (t : Trade) (rates : Rates) (backend : QuoterBackend Id)
    (vaults : VaultPreview Id) : Prop where
  boosted : ∀ s ∈ t.swaps, ∀ r, s.route = .boosted r → ∃ steps,
    Quoter.answer (Quoter.stepAmounts backend vaults r s.outputAmount) = .ok steps ∧
      s.inputAmount = steps.amountIn ∧ s.stepAmountsOut = some steps.amountsOut
  pooled : ∀ s ∈ t.swaps, ∀ r, s.route = .pooled r → ∀ path,
    SwapPath.ofRoute r .exactOutput = .ok path →
      rates.cost path s.outputAmount.toNat ≤ s.inputAmount.toNat

variable {v : Venue} {l : Ledger} {t : Trade} {o : SwapOptions} {rates : Rates}
  {backend : QuoterBackend Id} {vaults : VaultPreview Id}

/-- The market fills every route that was quoted from it. -/
lemma filled_quoted (answers : rates.Answers backend vaults)
    (quoted : t.Quoted rates backend vaults) (ht : t.tradeType = .exactOutput)
    (hosts : v.Hosts t) (hlt : budgets o t.swaps < 2 ^ 255) :
    t.Filled o v rates.market fun s out => s.outputAmount.toNat ≤ out := by
  intro s hs terms cs least i l hterms hencode hholds hfunds
  obtain ⟨htype, hpayee, hin, hout, hquoted, hsteps, hbuffer⟩ := terms_exactOutput ht hterms
  have hbudget := Nat.lt_of_le_of_lt (raise_le_budgets (o := o) hs) hlt
  have hle := o.slippage.le_raise s.inputAmount.toNat
  have hv := hosts.vaults s hs
  have hpooled := quoted.pooled s hs
  have hboosted := quoted.boosted s hs
  rw [← t.input_address hs, ← t.output_address hs] at hholds ⊢
  rw [← t.input_address hs] at hfunds
  rw [← hin] at hbudget hfunds hle ⊢
  rw [← hpayee]
  obtain ⟨route, input, output, stepAmounts⟩ := s
  simp only at hle hquoted hout hsteps hpooled hboosted ⊢
  cases route with
  | pooled r =>
      obtain ⟨path, hpath, rfl, rfl⟩ := (PoolRoute.encode_exactOutput htype).mp hencode
      have hcost : rates.cost path terms.amountOut.toNat ≤ terms.amountIn.toNat := by
        rw [hout]
        exact Nat.le_trans (hpooled r rfl path hpath) hle
      obtain ⟨spent, back, hspent, hrun⟩ :=
        PoolRoute.run_budget (m := rates.market) (i := i) hbudget hpath hfunds hcost
      exact ⟨spent, back, _, hspent, Nat.le_refl _, Nat.le_of_eq (congrArg _ hout.symm), hrun⟩
  | boosted r =>
      obtain ⟨steps, hstepAmounts, rfl, rfl⟩ := hboosted r rfl
      obtain ⟨amounts, needed, hchain, rfl⟩ := Quoter.answer_stepAmounts hstepAmounts
      have hneeded : StepAmounts.amountIn ⟨amounts.map Prod.fst, amounts.map Prod.snd⟩ =
          needed := by
        rw [StepAmounts.amountIn, Quoter.head_of_chain r.steps_ne_nil hchain, Option.getD_some]
      rw [hneeded] at hle hquoted
      obtain ⟨named, hnamed, -, hencoded⟩ := BoostedRoute.encoded_of_encode htype hencode
      obtain rfl : amounts.map Prod.snd = named :=
        Option.some.inj (hsteps.symm.trans hnamed)
      cases hencoded with
      | vaults hvault hleast hcs =>
          have hmet := Rates.le_passed_chain answers hvault hcs hchain i (Nat.le_refl _)
          rw [Quoter.last_of_chain r.steps_ne_nil hchain, Option.getD_some] at hleast
          have hless : least.toNat ≤ output.toNat := by
            rw [RoundingBuffer.toNat_apply hleast]
            exact RoundingBuffer.less_le _ _
          rw [← hquoted] at hle hmet
          obtain ⟨spent, back, hspent, hrun⟩ := BoostedRoute.run_steps_budget hbudget hfunds hv
            hholds hcs hle (Nat.le_trans hless hmet)
          exact ⟨spent, back, _, hspent, Nat.le_trans hless hmet, hmet, hrun⟩
      | @around before after a b p front back bought _ cs ds es c hsplit hbefore hafter hamounts
          hfront _ hcs hc hds hes hlast =>
          obtain ⟨hprice, hmet, hends, hback⟩ := Rates.quoted_around answers hbefore hafter
            (hsplit ▸ hchain) hamounts hfront hcs hc hds i hle
          have hbought : after = [] → least = bought := fun hnil => by
            rw [if_pos hnil] at hlast
            exact hlast
          have hless : least.toNat ≤ output.toNat := by
            by_cases hnil : after = []
            · exact Nat.le_of_eq (by rw [hbought hnil, hends hnil])
            · rw [if_neg hnil, hback hnil] at hlast
              rw [RoundingBuffer.toNat_apply hlast]
              exact RoundingBuffer.less_le _ _
          obtain ⟨spent, back, hspent, hrun⟩ := BoostedRoute.run_around_budget hbudget hfunds hv
            hholds hsplit hbefore hcs hc hds hes hbought hprice (Nat.le_trans hless hmet)
          exact ⟨spent, back, _, hspent, Nat.le_trans hless hmet, hmet, hrun⟩

/-- **Quoting, encoding and running a trade with a fixed output closes.** If its amounts were quoted
from a market, the user holds the most that it takes in and the router holds nothing, then its plan
runs through in this market, and the recipient gets no less than the output of the trade. -/
theorem exactOutput_closes {p : Plan} {value maxIn : Amount}
    (answers : rates.Answers backend vaults) (quoted : t.Quoted rates backend vaults)
    (ht : t.tradeType = .exactOutput) (h : t.plan o = .ok (p, value)) (hosts : v.Hosts t)
    (hmax : t.maximumIn o.slippage = .ok maxIn) (hlt : maxIn.toNat < 2 ^ 255)
    (hempty : ∀ token, l.balance v.router token = 0)
    (hfunds : maxIn.toNat ≤ l.balance v.user t.input.asset)
    (huser : v.holder o.recipient ≠ v.user) (hr : v.holder o.recipient ≠ v.router) :
    ∃ cs l', t.commands o = .ok (cs, value) ∧ p = .ofCommands cs ∧ p.RunsAs cs ∧
      l.execute v rates.market cs value = some l' ∧
      l.balance (v.holder o.recipient) t.output.asset + t.outputAmount.toNat ≤
        l'.balance (v.holder o.recipient) t.output.asset := by
  obtain ⟨cs, hcs, rfl⟩ := plan_eq_ok.mp h
  have hfilled := filled_quoted answers quoted ht hosts
    (Nat.lt_of_le_of_lt (budgets_le ht hmax) hlt)
  obtain ⟨l', outs, hrun, houts, hgain, -⟩ :=
    execute_filled ht hcs hosts hfilled hempty hmax hfunds huser hr
  refine ⟨cs, l', hcs, rfl, runsAs_commands hcs, hrun,
    Nat.le_trans (Nat.add_le_add_left ?_ _) hgain⟩
  rw [toNat_outputAmount]
  exact (List.forall₂_map_left_iff.mpr houts).sum_le_sum

end Trade

namespace Sample

/-- Two shares for each asset, and swaps at a fixed cost. -/
def rates : Rates where
  deposit _ n := 2 * n
  redeem _ n := n / 2
  previewMint _ n := (n + 1) / 2
  previewWithdraw _ n := 2 * n
  cost _ _ := 500
  deposit_mono _ a b h := by omega
  redeem_mono _ a b h := by omega
  le_deposit _ n := by omega
  le_redeem _ n := by omega

def backend : QuoterBackend Id where
  execute _ := return [QuotePlan.swapOutput.encode (500, [], 0)]
  executeBatch _ := return []

def vaults : VaultPreview Id where
  preview method _ n :=
    match method, n.add? n with
    | .mint, _ => return .ofNat 256 ((n.toNat + 1) / 2)
    | .withdraw, some twice => return twice
    | _, _ => throw .noOutput

lemma rates_answers : rates.Answers backend vaults where
  mint w out needed h := by
    obtain rfl := Quoter.answer_pure.mp h
    have := out.isLt
    simp only [BitVec.toNat_ofNat, rates]
    omega
  withdraw w out needed h := by
    simp only [vaults] at h
    split at h
    · simp_all
    · rename_i twice hadd
      obtain rfl := Quoter.answer_pure.mp h
      rw [Amount.add?_eq_some_iff.mp hadd]
      exact (Nat.two_mul _).symm
    · exact absurd h throw_ne_ok
  swap path out raw rest output h hdecode := by
    obtain ⟨rfl, rfl⟩ := List.cons.inj (Quoter.answer_pure.mp h)
    have hcost : (QuotePlan.decodeSwap (QuotePlan.swapOutput.encode (500, [], 0))).toOption.map
        QuotePlan.Output.amount = some 500 := by decide +kernel
    rw [hdecode] at hcost
    rw [Option.some.inj hcost]
    rfl

lemma trade_quoted : (trade .exactOutput 60).Quoted rates backend vaults where
  boosted s hs r hr := by
    rcases List.mem_cons.mp hs with rfl | hs
    · obtain rfl := Route.boosted.inj hr
      exact ⟨⟨[250, 500], [500, 60]⟩, eq_ok_of_toOption (by decide +kernel), rfl, rfl⟩
    · rw [List.mem_singleton.mp hs] at hr
      exact absurd hr (by simp)
  pooled s hs r hr path hpath := by
    rcases List.mem_cons.mp hs with rfl | hs
    · exact absurd hr (by simp [trade])
    · rw [List.mem_singleton.mp hs]
      exact Nat.le_refl _

/-- The amounts of such a trade are those that this market quotes, and it fills its plan. -/
theorem quoted_trade_closes : ∃ cs value l',
    (trade .exactOutput 60).plan options = .ok (.ofCommands cs, value) ∧
      ledger.execute venue rates.market cs value = some l' ∧
        100 ≤ l'.balance options.recipient Sentinel.native := by
  have hpaid : paid .exactOutput 60 rates.market = some 100 := by decide +kernel
  obtain ⟨cs, value, -, hcs, -, -⟩ := exists_run hpaid
  have hplan := Trade.plan_eq_ok.mpr ⟨cs, hcs, rfl⟩
  have hmax : (trade .exactOutput 60).maximumIn options.slippage = .ok 753 :=
    eq_ok_of_toOption (by decide +kernel)
  obtain ⟨_, l', hcs', -, -, hrun, hgain⟩ := Trade.exactOutput_closes rates_answers trade_quoted rfl
    hplan venue_hosts hmax (by decide) router_empty (by decide +kernel) (by decide)
    recipient_ne_router
  obtain rfl := (Prod.mk.inj (Except.ok.inj (hcs.symm.trans hcs'))).1
  exact ⟨cs, value, l', hplan, hrun, hgain⟩

end Sample

end SwapPlan

import SwapPlan.Proofs.Ledger.Fill

/-!
What trades with a fixed output pay at least. A route through pools delivers the output of its swap.
A boosted route delivers what its step amounts name for the last step, less the rounding buffer if
that is a vault step; the output of its swap does not enter its commands. So a plan keeps the
promise of its trade just where the step amounts do.
-/

namespace SwapPlan

namespace TradeSwap

/-- What the output of a swap promises. -/
def promised (s : TradeSwap) (buffer : RoundingBuffer) : Nat := s.least buffer s.outputAmount

end TradeSwap

namespace Trade

def promised (t : Trade) (o : SwapOptions) : Nat :=
  (t.swaps.map fun s => s.promised o.buffer).sum

variable {v : Venue} {m : Market} {l l' : Ledger} {t : Trade} {o : SwapOptions}

/-! ### What a run pays -/

/-- **No run pays less than what the routes deliver at least.** -/
theorem delivered_le_gain (ht : t.tradeType = .exactOutput) {cs : List Command} {value : Amount}
    (h : t.commands o = .ok (cs, value)) (hosts : v.Hosts t)
    (hempty : ∀ token, l.balance v.router token = 0) (huser : v.holder o.recipient ≠ v.user)
    (hr : v.holder o.recipient ≠ v.router) (hrun : l.execute v m cs value = some l') :
    l.balance (v.holder o.recipient) t.output.asset + t.delivered o ≤
      l'.balance (v.holder o.recipient) t.output.asset := by
  obtain ⟨minOut, maxIn, routes, total, -, hmax, hroutes, heq⟩ := execute_eq h hosts
  rw [heq m l (hempty _), Option.ite_none_right_eq_some, Option.bind_eq_some_iff] at hrun
  obtain ⟨-, l₁, hrun, hclosing⟩ := hrun
  rw [Option.ite_none_right_eq_some, Option.some.injEq] at hclosing
  obtain ⟨hpaid, rfl⟩ := hclosing
  simp only [ht] at hpaid
  have htotal : total.toNat = t.delivered o := by
    rw [toNat_of_routeCommands ht hroutes, Amount.toNat_zero, Nat.zero_add]
    rfl
  have hbefore : (t.funded v l maxIn.toNat).balance (v.holder o.recipient) t.output.asset =
      l.balance (v.holder o.recipient) t.output.asset := by
    rw [funded_of_ne hr, Ledger.balance_debit_of_ne _ fun hh => huser hh.1]
  -- What is not collected in the router has been paid out route by route.
  obtain ⟨-, hgain⟩ := routes_keep
    (P := fun _ before l₂ => l₂.balance (v.holder o.recipient) t.output.asset ≥
      (t.funded v l maxIn.toNat).balance (v.holder o.recipient) t.output.asset +
        if t.needsCustody then 0 else before)
    hosts (fun s swaps before l₂ spent back out least _ _ _ hout hP => by
      rw [Ledger.balance_exchange, if_neg fun hh => hr hh.1]
      have := hout ht
      cases hcustody : t.needsCustody with
      | true =>
          simp only [hcustody, if_true] at hP ⊢
          omega
      | false =>
          simp only [hcustody, Bool.false_eq_true, if_false] at hP ⊢
          rw [payee_of_not_custody hcustody,
            if_pos ⟨rfl, output_asset_of_not_custody hcustody⟩]
          omega)
    (fun _ hs => hs) hroutes (funded_holdsOnly hempty maxIn.toNat) (by simp) hrun
  have hle := le_settled (t := t) (o := o) (l := l₁) hr t.output.asset
  rw [paidOut_recipient hr] at hle
  cases hcustody : t.needsCustody with
  | true =>
      have := hpaid hcustody
      simp only [hcustody, if_true] at hgain hle
      omega
  | false =>
      simp only [hcustody, Bool.false_eq_true, if_false] at hgain hle
      omega

/-! ### A market that gives no more -/

/-- A market in which vaults put out just the minimum of their command and swaps cost nothing. -/
def stingy : Market := fun _ c _ =>
  match c with
  | .erc4626Wrap _ _ _ _ least | .erc4626Unwrap _ _ _ least => least.toNat
  | _ => 0

lemma passed_stingy {payee : Address} {least amount : Amount} {steps : List Step}
    {cs : List Command}
    (h : BoostedRoute.exactInputCommands payee least amount steps = .ok cs) (hne : steps ≠ [])
    (hv : ∀ s ∈ steps, s.isSwap = false) (i n : Nat) :
    stingy.passed i cs n = least.toNat := by
  have hone : ∀ {s : Step} {payee : Address} {amount least : Amount} {c : Command},
      s.isSwap = false → s.command .exactInput payee amount least = .ok c →
      ∀ i n, stingy i c n = least.toNat := by
    intro s payee amount least c hs hc i n
    cases s with
    | swap a b p => simp [Step.isSwap] at hs
    | wrap w | unwrap w =>
        simp only [Step.command, Except.ok.injEq] at hc
        rw [← hc]
        rfl
  induction steps generalizing amount cs i n with
  | nil => exact absurd rfl hne
  | cons s steps ih =>
      by_cases hnil : steps = []
      · subst hnil
        obtain ⟨c, hc, rfl⟩ := BoostedRoute.exactInputCommands_singleton.mp h
        exact hone (hv s List.mem_cons_self) hc i n
      · obtain ⟨c, cs', -, hcs', rfl⟩ := (BoostedRoute.exactInputCommands_cons hnil).mp h
        exact ih hcs' hnil (fun s hs => hv s (List.mem_cons_of_mem _ hs)) _ _

/-- Such a market fills every route with just what the route delivers at least. -/
lemma filled_stingy (ht : t.tradeType = .exactOutput) (hosts : v.Hosts t)
    (hlt : budgets o t.swaps < 2 ^ 255) :
    t.Filled o v stingy fun s out => s.delivered o.buffer = out := by
  intro s hs terms cs least i l hterms hencode hholds hfunds
  have hleast := toNat_of_encode ht hterms hencode
  obtain ⟨htype, hpayee, hin, -, hquoted, -⟩ := terms_exactOutput ht hterms
  have hbudget := Nat.lt_of_le_of_lt (raise_le_budgets (o := o) hs) hlt
  have hle := o.slippage.le_raise s.inputAmount.toNat
  have hv := hosts.vaults s hs
  rw [← t.input_address hs, ← t.output_address hs] at hholds ⊢
  rw [← t.input_address hs] at hfunds
  rw [← hin, ← hquoted] at hle
  rw [← hin] at hbudget hfunds ⊢
  rw [← hpayee]
  obtain ⟨route, _, _, _⟩ := s
  cases route with
  | pooled r =>
      obtain ⟨path, hpath, rfl, rfl⟩ := (PoolRoute.encode_exactOutput htype).mp hencode
      obtain ⟨spent, back, hspent, hrun⟩ :=
        PoolRoute.run_budget (m := stingy) (i := i) hbudget hpath hfunds (Nat.zero_le _)
      exact ⟨spent, back, _, hspent, Nat.le_refl _, hleast.symm, hrun⟩
  | boosted r =>
      obtain ⟨amounts, -, -, hencoded⟩ := BoostedRoute.encoded_of_encode htype hencode
      cases hencoded with
      | vaults hvault _ hcs =>
          have hout := passed_stingy hcs r.steps_ne_nil hvault i terms.quotedIn.toNat
          obtain ⟨spent, back, hspent, hrun⟩ :=
            BoostedRoute.run_steps_budget hbudget hfunds hv hholds hcs hle (Nat.le_of_eq hout.symm)
          exact ⟨spent, back, _, hspent, Nat.le_of_eq hout.symm, hleast.symm.trans hout.symm, hrun⟩
      | @around before after a b p front back bought _ cs ds es c hsteps hbefore hafter hamounts
          hfront hback hcs hc hds hes hlast =>
          have hbought : after = [] → least = bought := fun hnil => by
            rw [if_pos hnil] at hlast
            exact hlast
          have hout : stingy.passed (i + cs.length + 1) ds bought.toNat = least.toNat := by
            by_cases hnil : after = []
            · subst hnil
              obtain rfl := Except.ok.inj hds
              rw [hbought rfl]
              rfl
            · exact passed_stingy hds hnil hafter _ _
          have hprice : stingy (i + cs.length) c bought.toNat = 0 := by
            simp only [Step.command, bind_eq_ok, pure_eq_ok] at hc
            obtain ⟨path, -, rfl⟩ := hc
            rfl
          obtain ⟨spent, back, hspent, hrun⟩ :=
            BoostedRoute.run_around_budget hbudget hfunds hv hholds hsteps hbefore hcs hc hds hes
              hbought (hprice ▸ Nat.zero_le _) (Nat.le_of_eq hout.symm)
          exact ⟨spent, back, _, hspent, Nat.le_of_eq hout.symm, hleast.symm.trans hout.symm, hrun⟩

/-! ### Promises -/

/-- Routes that lead back to where they begin are all routes through pools. -/
lemma promised_eq_delivered (h : t.input.address = t.output.address) :
    t.promised o = t.delivered o := by
  have hpooled : ∀ s ∈ t.swaps, s.promised o.buffer = s.delivered o.buffer := by
    intro s hs
    have hin := t.input_address hs
    have hout := t.output_address hs
    obtain ⟨route, _, _, _⟩ := s
    cases route with
    | pooled r => rfl
    | boosted r => exact absurd (hin.trans (h.trans hout.symm)) r.input_ne_output
  rw [promised, delivered, List.map_congr_left hpooled]

/-- **A plan with a fixed output pays what its routes deliver at least, and nothing above this is
certain.** The promise of the trade is kept in every run exactly if what the routes deliver, as the
step amounts have it, adds up to it. -/
theorem exactOutput_keeps_promise_iff {p : Plan} {value : Amount}
    (ht : t.tradeType = .exactOutput) (h : t.plan o = .ok (p, value)) (hosts : v.Hosts t)
    (huser : v.holder o.recipient ≠ v.user) (hr : v.holder o.recipient ≠ v.router) :
    ∃ cs maxIn, t.commands o = .ok (cs, value) ∧ p = .ofCommands cs ∧ p.RunsAs cs ∧
      t.maximumIn o.slippage = .ok maxIn ∧
      let Pays (n : Nat) : Prop := ∀ m (l l' : Ledger), (∀ token, l.balance v.router token = 0) →
        l.execute v m cs value = some l' →
          l.balance (v.holder o.recipient) t.output.asset + n ≤
            l'.balance (v.holder o.recipient) t.output.asset
      Pays (t.delivered o) ∧
        (maxIn.toNat < 2 ^ 255 → (Pays (t.promised o) ↔ t.promised o ≤ t.delivered o)) := by
  obtain ⟨cs, hcs, rfl⟩ := plan_eq_ok.mp h
  obtain ⟨-, maxIn, -, -, -, -, hmax, -⟩ := commands_eq_ok hcs
  have hpays : ∀ m (l l' : Ledger), (∀ token, l.balance v.router token = 0) →
      l.execute v m cs value = some l' →
        l.balance (v.holder o.recipient) t.output.asset + t.delivered o ≤
          l'.balance (v.holder o.recipient) t.output.asset :=
    fun m l l' hempty hrun => delivered_le_gain ht hcs hosts hempty huser hr hrun
  refine ⟨cs, maxIn, hcs, rfl, runsAs_commands hcs, hmax, hpays, fun hlt => ⟨fun hkept => ?_,
    fun hle m l l' hempty hrun =>
      Nat.le_trans (Nat.add_le_add_left hle _) (hpays m l l' hempty hrun)⟩⟩
  by_cases hends : t.input.address = t.output.address
  · exact Nat.le_of_eq (promised_eq_delivered hends)
  · -- The user has the whole input, and nobody has anything else.
    obtain ⟨start, hstart⟩ : ∃ start : Ledger, ∀ account token,
        start.balance account token = if account = v.user then maxIn.toNat else 0 :=
      ⟨⟨fun account _ => if account = v.user then maxIn.toNat else 0⟩, fun _ _ => rfl⟩
    have hempty : ∀ token, start.balance v.router token = 0 := by
      intro token
      rw [hstart, if_neg v.user_ne_router.symm]
    have hfunds : maxIn.toNat ≤ start.balance v.user t.input.asset :=
      Nat.le_of_eq (by rw [hstart, if_pos rfl])
    obtain ⟨l', outs, hrun, houts, -, hgain⟩ := execute_filled ht hcs hosts
      (filled_stingy ht hosts (Nat.lt_of_le_of_lt (budgets_le ht hmax) hlt)) hempty hmax hfunds
      huser hr
    have hsum : outs.sum = t.delivered o := by
      have heq := List.forall₂_map_left_iff.mpr houts
      rw [List.forall₂_eq_eq_eq] at heq
      rw [delivered, heq]
    have hle := hkept stingy start l' hempty hrun
    rw [hgain hends, hsum] at hle
    exact Nat.le_of_add_le_add_left hle

end Trade

namespace Sample

/-- Where the step amounts name the output of the swap, every run pays the output of the trade. -/
theorem promise_kept : ∃ cs value,
    (trade .exactOutput 60).plan options = .ok (.ofCommands cs, value) ∧
      ∀ m (l l' : Ledger), (∀ token, l.balance venue.router token = 0) →
        l.execute venue m cs value = some l' →
          l.balance options.recipient Sentinel.native + 100 ≤
            l'.balance options.recipient Sentinel.native := by
  have hpaid : paid .exactOutput 60 Trade.stingy = some 100 := by decide +kernel
  obtain ⟨cs, value, -, hcs, -, -⟩ := exists_run hpaid
  have hplan := Trade.plan_eq_ok.mpr ⟨cs, hcs, rfl⟩
  obtain ⟨_, maxIn, hcs', -, -, hmax, -, hiff⟩ := Trade.exactOutput_keeps_promise_iff rfl hplan
    venue_hosts (by decide) recipient_ne_router
  obtain rfl := (Prod.mk.inj (Except.ok.inj (hcs.symm.trans hcs'))).1
  have hmost : (trade .exactOutput 60).maximumIn options.slippage = .ok 753 :=
    eq_ok_of_toOption (by decide +kernel)
  obtain rfl : maxIn = 753 := Except.ok.inj (hmax.symm.trans hmost)
  have hpromised : (trade .exactOutput 60).promised options = 100 := by decide +kernel
  have hdelivered : (trade .exactOutput 60).delivered options = 100 := by decide +kernel
  refine ⟨cs, value, hplan, fun m l l' hempty hrun => ?_⟩
  have hpays := (hiff (by decide)).mpr (Nat.le_of_eq (hpromised.trans hdelivered.symm))
  rw [hpromised] at hpays
  exact hpays m l l' hempty hrun

/-- Where they name less, a run may pay less than the trade promises. -/
theorem promise_broken : (trade .exactOutput 1).promised options = 100 ∧ ∃ cs value l',
    (trade .exactOutput 1).plan options = .ok (.ofCommands cs, value) ∧
      ledger.execute venue Trade.stingy cs value = some l' ∧
        l'.balance options.recipient Sentinel.native = 41 := by
  have hpaid : paid .exactOutput 1 Trade.stingy = some 41 := by decide +kernel
  obtain ⟨cs, value, l', hcs, hrun, hgain⟩ := exists_run hpaid
  exact ⟨by decide +kernel, cs, value, l', Trade.plan_eq_ok.mpr ⟨cs, hcs, rfl⟩, hrun, hgain⟩

end Sample

end SwapPlan

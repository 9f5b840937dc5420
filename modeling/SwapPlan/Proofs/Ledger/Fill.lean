import SwapPlan.Proofs.Ledger.Custody
import Mathlib.Data.List.Forall2
import Mathlib.Algebra.Order.BigOperators.Group.List
import Mathlib.Algebra.Order.Ring.Nat

/-!
Trades with a fixed output in a market that fills them. If every route runs through from its own
budget, then all routes do in a row, since no route eats into the budget of another, and so does the
plan.
-/

namespace SwapPlan.Trade

variable {v : Venue} {m : Market} {l : Ledger} {t : Trade} {o : SwapOptions}
  {Q : TradeSwap → Nat → Prop}

/-- The most that some swaps take in, each at its own premium. -/
def budgets (o : SwapOptions) (swaps : List TradeSwap) : Nat :=
  (swaps.map fun s => o.slippage.raise s.inputAmount.toNat).sum

lemma budgets_cons (o : SwapOptions) (s : TradeSwap) (swaps : List TradeSwap) :
    budgets o (s :: swaps) = o.slippage.raise s.inputAmount.toNat + budgets o swaps := by
  simp [budgets]

/-- **The budgets of all routes come out of what the user hands over.** -/
theorem budgets_le (ht : t.tradeType = .exactOutput) {maxIn : Amount}
    (hmax : t.maximumIn o.slippage = .ok maxIn) : budgets o t.swaps ≤ maxIn.toNat := by
  rw [maximumIn, ht] at hmax
  have hsum : budgets o t.swaps =
      ((t.swaps.map fun s => s.inputAmount.toNat).map o.slippage.raise).sum := by
    rw [List.map_map]
    rfl
  rw [Percent.toNat_premium hmax, toNat_inputAmount, hsum]
  exact Percent.sum_raise_le _ _

lemma raise_le_budgets {s : TradeSwap} {swaps : List TradeSwap} (hs : s ∈ swaps) :
    o.slippage.raise s.inputAmount.toNat ≤ budgets o swaps :=
  List.single_le_sum (fun _ _ => Nat.zero_le _) _
    (List.mem_map_of_mem (f := fun s => o.slippage.raise s.inputAmount.toNat) hs)

/-- The market fills every route of a trade from the budget of the route, with an output of which
`Q` holds. -/
def Filled (t : Trade) (o : SwapOptions) (v : Venue) (m : Market) (Q : TradeSwap → Nat → Prop) :
    Prop :=
  ∀ s ∈ t.swaps, ∀ terms cs least i (l : Ledger), t.terms o s = .ok terms →
    s.route.encode terms = .ok (cs, least) →
    l.HoldsOnly v t.input.address t.output.address →
    o.slippage.raise s.inputAmount.toNat ≤ l.balance v.router t.input.address →
    ∃ spent back out, spent ≤ o.slippage.raise s.inputAmount.toNat ∧ least.toNat ≤ out ∧ Q s out ∧
      l.run v m i cs = some
        (l.exchange v t.input.address t.output.address (t.payee o) spent back out)

/-- Routes that are filled run through in a row. -/
lemma run_routes_filled (hfilled : t.Filled o v m Q) {swaps : List TradeSwap}
    {delivered total : Amount} {routes : List Command} {i : Nat} (hswaps : ∀ s ∈ swaps, s ∈ t.swaps)
    (hroutes : t.routeCommands o delivered swaps = .ok (routes, total))
    (hholds : l.HoldsOnly v t.input.address t.output.address)
    (hfunds : budgets o swaps ≤ l.balance v.router t.input.address) :
    ∃ l' outs, l.run v m i routes = some l' ∧ List.Forall₂ Q swaps outs ∧
      l'.HoldsOnly v t.input.address t.output.address ∧
      total.toNat ≤ delivered.toNat + outs.sum ∧
      (∀ account, account ≠ v.router → ∀ token, l'.balance account token =
        l.balance account token +
          if account = v.holder (t.payee o) ∧ token = t.output.address then outs.sum else 0) ∧
      (v.holder (t.payee o) = v.router →
        if t.input.address = t.output.address then
          l.balance v.router t.output.address + outs.sum ≤
            l'.balance v.router t.output.address + budgets o swaps
        else l'.balance v.router t.output.address =
          l.balance v.router t.output.address + outs.sum) := by
  induction swaps generalizing l delivered routes i with
  | nil =>
      rw [routeCommands_nil, Except.ok.injEq, Prod.mk.injEq] at hroutes
      obtain ⟨rfl, rfl⟩ := hroutes
      refine ⟨l, [], rfl, .nil, hholds, Nat.le_refl _, fun _ _ _ => ?_, fun _ => ?_⟩
      · simp
      · split_ifs <;> simp [budgets]
  | cons s swaps ih =>
      obtain ⟨terms, cs, least, delivered', rest, hterms, hencode, hadd, hrest, rfl⟩ :=
        routeCommands_cons.mp hroutes
      rw [budgets_cons] at hfunds
      obtain ⟨spent, back, out, hspent, hleast, hQ, hrun⟩ := hfilled s (hswaps s List.mem_cons_self)
        terms cs least i l hterms hencode hholds (by omega)
      obtain ⟨l₁, hl₁⟩ : ∃ l₁, l₁ = l.exchange v t.input.address t.output.address (t.payee o) spent
        back out := ⟨_, rfl⟩
      rw [← hl₁] at hrun
      have hkept : budgets o swaps ≤ l₁.balance v.router t.input.address := by
        rw [hl₁, Ledger.balance_exchange, if_pos ⟨rfl, rfl⟩]
        omega
      obtain ⟨l', outs, hrun', hQs, hholds', htotal, haccounts, hrouter⟩ :=
        ih (i := i + cs.length) (fun s hs => hswaps s (List.mem_cons_of_mem _ hs)) hrest
          (hl₁ ▸ hholds.exchange _ _ _ _) hkept
      refine ⟨l', out :: outs, ?_, .cons hQ hQs, hholds', ?_, fun account hr token => ?_,
        fun hpayee => ?_⟩
      · rw [Ledger.run_append, hrun, Option.bind_some, hrun']
      · rw [List.sum_cons]
        omega
      · rw [haccounts account hr token, hl₁, Ledger.balance_exchange, if_neg fun hh => hr hh.1,
          List.sum_cons]
        split_ifs <;> omega
      · have hsame := hrouter hpayee
        have hb : l₁.balance v.router t.output.address =
            (if t.output.address = t.input.address then
              l.balance v.router t.output.address - spent + back
            else l.balance v.router t.output.address) + out := by
          rw [hl₁, Ledger.balance_exchange, hpayee]
          simp
        rw [List.sum_cons, budgets_cons]
        by_cases hends : t.input.address = t.output.address
        · rw [if_pos hends] at hsame ⊢
          rw [if_pos hends.symm] at hb
          rw [hends] at hfunds
          omega
        · rw [if_neg hends] at hsame ⊢
          rw [if_neg (Ne.symm hends)] at hb
          omega

/-- **A plan whose routes are filled runs through,** and the recipient gets at least what the
routes put out, and no more unless the input is the output. -/
theorem execute_filled (ht : t.tradeType = .exactOutput) {cs : List Command} {value : Amount}
    (h : t.commands o = .ok (cs, value)) (hosts : v.Hosts t) (hfilled : t.Filled o v m Q)
    (hempty : ∀ token, l.balance v.router token = 0) {maxIn : Amount}
    (hmax : t.maximumIn o.slippage = .ok maxIn)
    (hfunds : maxIn.toNat ≤ l.balance v.user t.input.asset)
    (huser : v.holder o.recipient ≠ v.user) (hr : v.holder o.recipient ≠ v.router) :
    ∃ l' outs, l.execute v m cs value = some l' ∧ List.Forall₂ Q t.swaps outs ∧
      l.balance (v.holder o.recipient) t.output.asset + outs.sum ≤
        l'.balance (v.holder o.recipient) t.output.asset ∧
      (t.input.address ≠ t.output.address → l'.balance (v.holder o.recipient) t.output.asset =
        l.balance (v.holder o.recipient) t.output.asset + outs.sum) := by
  obtain ⟨minOut, maxIn', routes, delivered, -, hmax', hroutes, heq⟩ := execute_eq h hosts
  obtain rfl : maxIn = maxIn' := Except.ok.inj (hmax.symm.trans hmax')
  have hfunded := funded_router (t := t) hempty maxIn.toNat
  have hbudgets := budgets_le ht hmax
  obtain ⟨l₁, outs, hrun, hQs, hholds, htotal, haccounts, hrouter⟩ :=
    run_routes_filled (i := o.permit.toList.length + 1) hfilled (fun _ hs => hs) hroutes
      (funded_holdsOnly hempty maxIn.toNat) (by rw [hfunded, if_pos rfl]; exact hbudgets)
  have hheld : t.needsCustody = true → outs.sum ≤ l₁.balance v.router t.output.address ∧
      (t.input.address ≠ t.output.address →
        l₁.balance v.router t.output.address = outs.sum) := by
    intro hcustody
    have := hrouter (holder_payee_of_custody hcustody)
    rw [hfunded] at this
    split_ifs at this with hends hback hback
    · exact ⟨by omega, fun hne => absurd hends hne⟩
    · exact absurd hends.symm hback
    · exact absurd hback.symm hends
    · exact ⟨by omega, fun _ => by omega⟩
  have hnative : l₁.balance v.router Sentinel.native = 0 :=
    hholds _ hosts.input_ne.symm hosts.output_ne.symm
  have hpaid := paidOut_gain huser hr (haccounts _ hr t.output.asset)
  refine ⟨t.settled o v l₁, outs, ?_, hQs, ?_, fun hne => ?_⟩
  · rw [heq m l (hempty _), if_pos hfunds, hrun, Option.bind_some, if_pos]
    intro hcustody
    simp only [ht]
    rw [Amount.toNat_zero, Nat.zero_add] at htotal
    exact Nat.le_trans htotal (hheld hcustody).1
  · have hle := le_settled (t := t) (o := o) (l := l₁) hr t.output.asset
    rw [hpaid] at hle
    refine Nat.le_trans (Nat.add_le_add_left ?_ _) hle
    split_ifs with hcustody
    · exact (hheld hcustody).1
    · exact Nat.le_refl _
  · have hassets : t.output.asset ≠ t.input.asset := by
      intro hsame
      simp only [Currency.asset] at hsame
      split_ifs at hsame with hout hin hin
      · exact hne ((hosts.input_weth hin).trans (hosts.output_weth hout).symm)
      · exact hosts.input_ne hsame.symm
      · exact hosts.output_ne hsame
      · exact hne hsame.symm
    rw [settled_of_ne hr hnative fun _ _ => hassets, hpaid]
    split_ifs with hcustody
    · rw [(hheld hcustody).2 hne]
    · rfl

end SwapPlan.Trade

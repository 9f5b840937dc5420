import SwapPlan.Proofs.Ledger.Purchase
import SwapPlan.Proofs.Encode.Delivered

/-!
Routes of either kind on a ledger. A route exchanges some of its input for at least what its terms
let it deliver, and touches nothing else that the router holds.
-/

namespace SwapPlan

/-- A venue whose vaults along a route hold what the route takes them to hold. -/
def Venue.KnowsVaults (v : Venue) (r : Route) : Prop :=
  ∀ w, Currency.vault w ∈ r.path → v.Knows w

variable {v : Venue} {m : Market} {l l' : Ledger} {t : RouteTerms} {cs : List Command}
  {least : Amount} {i : Nat}

namespace PoolRoute

variable {r : PoolRoute}

/-- A swap over a whole path buys its output if the output is fixed. -/
lemma run_exactOutput {path : SwapPath} (hpath : SwapPath.ofRoute r .exactOutput = .ok path) :
    l.run v m i [.swap .exactOutput path t.recipient t.amountOut t.amountIn] =
      l.buy v r.input.address r.output.address t.recipient t.amountOut t.amountIn
        (m i (.swap .exactOutput path t.recipient t.amountOut t.amountIn)) := by
  rw [Ledger.run_singleton]
  simp only [Ledger.perform, SwapPath.ends_ofRoute hpath]
  rfl

end PoolRoute

namespace BoostedRoute

variable {r : BoostedRoute}

/-- The steps of a route are a chain from its input to its output. -/
lemma run_steps {payee : Address} {amount : Amount}
    (hcs : exactInputCommands payee least amount r.steps = .ok cs)
    (hv : ∀ w, Currency.vault w ∈ r.path → v.Knows w)
    (hempty : ∀ t, t ≠ r.input.address → t ≠ r.output.address → l.balance v.router t = 0) :
    l.run v m i cs = l.sell v r.input.address r.output.address payee amount least
      (m.passed i cs) := by
  obtain ⟨hnodup, halong, hvaults⟩ := r.along
  obtain ⟨mid, hpath⟩ := r.exists_path
  rw [hpath] at hnodup halong
  refine run_chain hcs halong (List.nodup_append.mp hnodup).1
    (fun s hs w hw => hv w (hvaults s hs w hw)) (fun t ht => hempty t ?_ ?_) i
  · rintro rfl
    exact (List.nodup_cons.mp hnodup).1 (List.mem_append_left _ ht)
  · rintro rfl
    exact (List.nodup_append.mp hnodup).2.2 _ (List.mem_cons_of_mem _ ht) _
      (List.mem_singleton_self _) rfl

end BoostedRoute

namespace Route

variable {r : Route}

/-- **A route with a fixed input sells it.** -/
theorem run_exactInput (ht : t.tradeType = .exactInput) (h : r.encode t = .ok (cs, least))
    (hv : v.KnowsVaults r)
    (hempty : ∀ t, t ≠ r.input.address → t ≠ r.output.address → l.balance v.router t = 0) :
    l.run v m i cs = l.sell v r.input.address r.output.address t.recipient t.amountIn t.amountOut
      (m.passed i cs) := by
  cases r with
  | pooled r =>
      obtain ⟨path, hpath, rfl, -⟩ := (PoolRoute.encode_exactInput ht).mp h
      rw [Ledger.run_singleton]
      simp only [Ledger.perform, SwapPath.ends_ofRoute hpath]
      rfl
  | boosted r =>
      simp only [encode, BoostedRoute.encode, ht, bind_eq_ok, pure_eq_ok, Prod.mk.injEq] at h
      obtain ⟨_, hcs, rfl, -⟩ := h
      exact BoostedRoute.run_steps hcs hv hempty

/-- **A route with a fixed output that does not fail delivers its minimum,** and spends no more than
its budget if that does not name the whole balance. -/
theorem run_exactOutput (ht : t.tradeType = .exactOutput) (h : r.encode t = .ok (cs, least))
    (hv : v.KnowsVaults r)
    (hempty : ∀ t, t ≠ r.input.address → t ≠ r.output.address → l.balance v.router t = 0)
    (hrun : l.run v m i cs = some l') :
    ∃ spent back out, spent ≤ l.balance v.router r.input.address ∧ least.toNat ≤ out ∧
      (t.amountIn.toNat < 2 ^ 255 → t.quotedIn.toNat ≤ t.amountIn.toNat →
        spent ≤ t.amountIn.toNat) ∧
      l' = l.exchange v r.input.address r.output.address t.recipient spent back out := by
  have hresolve {n : Amount} (hn : n.toNat < 2 ^ 255) :=
    Ledger.resolve_of_lt (v := v) (l := l) r.input.address hn
  cases r with
  | pooled r =>
      obtain ⟨path, hpath, rfl, rfl⟩ := (PoolRoute.encode_exactOutput ht).mp h
      rw [PoolRoute.run_exactOutput hpath, Ledger.buy_eq_some] at hrun
      obtain ⟨⟨hmost, hle⟩, rfl⟩ := hrun
      exact ⟨_, 0, _, hle, Nat.le_refl _, fun hlt _ => hresolve hlt ▸ hmost, rfl⟩
  | boosted r =>
      obtain ⟨amounts, -, -, hencoded⟩ := BoostedRoute.encoded_of_encode ht h
      cases hencoded with
      | vaults hvault hleast hcs =>
          rw [BoostedRoute.run_steps hcs hv hempty, Ledger.sell_eq_some] at hrun
          obtain ⟨⟨hle, hout⟩, rfl⟩ := hrun
          refine ⟨_, 0, _, hle, hout, fun hlt hquoted => ?_, rfl⟩
          exact Nat.le_trans (Nat.le_of_eq (hresolve (Nat.lt_of_le_of_lt hquoted hlt))) hquoted
      | around hsteps hbefore hafter hamounts hfront hback hcs hc hds hes hleast =>
          rw [BoostedRoute.run_around hsteps hbefore hcs hc hds hes
            (fun hnil => by rw [if_pos hnil] at hleast; exact hleast) hv hempty] at hrun
          simp only [Option.ite_none_right_eq_some, Option.some.injEq] at hrun
          obtain ⟨⟨-, hout⟩, rfl⟩ := hrun
          exact ⟨_, _, _, BoostedRoute.budget_le _ _ _ _, hout,
            fun hlt _ => hresolve hlt ▸ Nat.min_le_left _ _, rfl⟩

end Route

/-! ### From a budget -/

section Budget

variable (hlt : t.amountIn.toNat < 2 ^ 255)
include hlt

/-- A route through pools runs through where it costs no more than its budget. -/
lemma PoolRoute.run_budget {r : PoolRoute} {path : SwapPath}
    (hpath : SwapPath.ofRoute r .exactOutput = .ok path)
    (hfunds : t.amountIn.toNat ≤ l.balance v.router r.input.address)
    (hcost : m i (.swap .exactOutput path t.recipient t.amountOut t.amountIn) t.amountOut.toNat ≤
      t.amountIn.toNat) :
    ∃ spent back, spent ≤ t.amountIn.toNat ∧
      l.run v m i [.swap .exactOutput path t.recipient t.amountOut t.amountIn] =
        some (l.exchange v r.input.address r.output.address t.recipient spent back
          t.amountOut.toNat) := by
  refine ⟨_, 0, hcost, ?_⟩
  rw [run_exactOutput hpath, Ledger.buy_eq_some, Ledger.resolve_of_lt _ hlt]
  exact ⟨⟨hcost, Nat.le_trans hcost hfunds⟩, rfl⟩

namespace BoostedRoute

variable {r : BoostedRoute}
  (hfunds : t.amountIn.toNat ≤ l.balance v.router r.input.address)
  (hv : ∀ w, Currency.vault w ∈ r.path → v.Knows w)
  (hempty : ∀ t, t ≠ r.input.address → t ≠ r.output.address → l.balance v.router t = 0)
include hfunds hv hempty

/-- A route of vault steps runs through where its last step puts out the minimum. -/
lemma run_steps_budget (hcs : exactInputCommands t.recipient least t.quotedIn r.steps = .ok cs)
    (hle : t.quotedIn.toNat ≤ t.amountIn.toNat)
    (hmet : least.toNat ≤ m.passed i cs t.quotedIn.toNat) :
    ∃ spent back, spent ≤ t.amountIn.toNat ∧ l.run v m i cs =
      some (l.exchange v r.input.address r.output.address t.recipient spent back
        (m.passed i cs t.quotedIn.toNat)) := by
  refine ⟨_, 0, hle, ?_⟩
  rw [run_steps hcs hv hempty, Ledger.sell_eq_some,
    Ledger.resolve_of_lt _ (Nat.lt_of_le_of_lt hle hlt)]
  exact ⟨⟨Nat.le_trans hle hfunds, hmet⟩, rfl⟩

/-- A route around a swap runs through where the swap costs no more than has reached it and the last
step puts out the minimum. -/
lemma run_around_budget {before after : List Step} {ca cb : Currency} {p : Pool} {bought : Amount}
    {ds es : List Command} {c : Command} (hsteps : r.steps = before ++ .swap ca cb p :: after)
    (hbefore : ∀ s ∈ before, s.isSwap = false)
    (hcs : exactInputCommands Sentinel.router 0 t.amountIn before = .ok cs)
    (hc : (Step.swap ca cb p).command .exactOutput
      (if after = [] then t.recipient else Sentinel.router) bought
      (if before = [] then t.amountIn else Sentinel.wholeBalance) = .ok c)
    (hds : exactInputCommands t.recipient least Sentinel.wholeBalance after = .ok ds)
    (hes : exactInputCommands Sentinel.router 0 Sentinel.wholeBalance
      (before.reverse.map Step.inverse) = .ok es)
    (hleast : after = [] → least = bought)
    (hprice : m (i + cs.length) c bought.toNat ≤ m.passed i cs t.amountIn.toNat)
    (hmet : least.toNat ≤ m.passed (i + cs.length + 1) ds bought.toNat) :
    ∃ spent back, spent ≤ t.amountIn.toNat ∧ l.run v m i (cs ++ c :: (ds ++ es)) =
      some (l.exchange v r.input.address r.output.address t.recipient spent back
        (m.passed (i + cs.length + 1) ds bought.toNat)) := by
  have hresolve := Ledger.resolve_of_lt (v := v) (l := l) r.input.address hlt
  have hbudget : budget v l r.input.address t.amountIn = t.amountIn.toNat := by
    rw [budget_of_le (hresolve.symm ▸ hfunds), hresolve]
  rw [run_around hsteps hbefore hcs hc hds hes hleast hv hempty]
  simp only [hbudget, hresolve]
  exact ⟨_, _, Nat.le_refl _, if_pos ⟨⟨.inr hfunds, hprice⟩, hmet⟩⟩

end BoostedRoute

end Budget

end SwapPlan

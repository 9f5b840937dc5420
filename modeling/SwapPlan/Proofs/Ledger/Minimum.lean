import SwapPlan.Proofs.Ledger.Custody
import Mathlib.Logic.Function.Basic

/-!
Trades with a fixed input. Whatever the market gives, their plans run through exactly if all routes
together put out the minimum of the trade: the bound stands in one place or another, but no other
bound and no balance is ever in the way.
-/

namespace SwapPlan

/-- The number of commands of a route with a fixed input. -/
def Route.stepCount : Route → Nat
  | pooled _ => 1
  | boosted r => r.steps.length

namespace Trade

/-- The places at which the last steps of routes stand if the first route begins at a place. -/
def lastPlaces : (place : Nat) → List TradeSwap → List Nat
  | _, [] => []
  | i, s :: swaps => (i + s.route.stepCount - 1) :: lastPlaces (i + s.route.stepCount) swaps

/-- What routes put out of which the first begins at a place, if every command puts out an amount of
its own. -/
def produced (out : Nat → Nat) (place : Nat) (swaps : List TradeSwap) : Nat :=
  ((lastPlaces place swaps).map out).sum

lemma produced_cons (out : Nat → Nat) (i : Nat) (s : TradeSwap) (swaps : List TradeSwap) :
    produced out i (s :: swaps) =
      out (i + s.route.stepCount - 1) + produced out (i + s.route.stepCount) swaps := by
  simp [produced, lastPlaces]

end Trade

/-! ### Outputs -/

namespace Ledger

variable {v : Venue} {l : Ledger}

/-- A command is answered once. -/
lemma exists_output (l : Ledger) (answer : Nat → Nat) (c : Command) :
    ∃ n, l.perform v answer c = l.perform v (fun _ => n) c := by
  cases c with
  | swap side path recipient exact bound =>
      cases hends : path.ends side with
      | none => exact ⟨0, by simp only [perform, hends, Option.bind_eq_bind, Option.bind_none]⟩
      | some ends =>
          cases side with
          | exactInput =>
              refine ⟨answer (l.resolve v ends.1 exact), ?_⟩
              simp only [perform, hends, Option.bind_eq_bind, Option.bind_some, sell]
          | exactOutput =>
              refine ⟨answer exact.toNat, ?_⟩
              simp only [perform, hends, Option.bind_eq_bind, Option.bind_some, buy]
  | erc4626Wrap wrapper underlying recipient amount least =>
      exact ⟨answer (l.resolve v underlying amount), rfl⟩
  | erc4626Unwrap wrapper recipient amount least =>
      exact ⟨answer (l.resolve v wrapper amount), rfl⟩
  | _ => exact ⟨0, rfl⟩

/-- A run does not ask for places before its own. -/
lemma run_congr {m m' : Market} {i : Nat} {cs : List Command} (h : ∀ j, i ≤ j → m j = m' j) :
    l.run v m i cs = l.run v m' i cs := by
  induction cs generalizing i l with
  | nil => rfl
  | cons c cs ih =>
      rw [run_cons, run_cons, h i (Nat.le_refl i)]
      congr 1
      funext l'
      exact ih fun j hj => h j (Nat.le_of_succ_le hj)

/-- **Whatever a market answers, every command puts out some amount of its own.** -/
theorem exists_outputs (l : Ledger) (m : Market) (i : Nat) (cs : List Command) :
    ∃ out : Nat → Nat, l.run v m i cs = l.run v (fun i _ _ => out i) i cs := by
  induction cs generalizing i l with
  | nil => exact ⟨fun _ => 0, rfl⟩
  | cons c cs ih =>
      obtain ⟨n, hn⟩ := l.exists_output (v := v) (m i c) c
      cases hc : l.perform v (m i c) c with
      | none =>
          refine ⟨fun _ => n, ?_⟩
          rw [run_cons, run_cons, ← hn, hc]
          rfl
      | some l' =>
          obtain ⟨out, hout⟩ := ih l' (i + 1)
          refine ⟨Function.update out i n, ?_⟩
          rw [run_cons, run_cons, Function.update_self, ← hn, hc, Option.bind_some,
            Option.bind_some, hout]
          refine run_congr fun j hj => ?_
          rw [Function.update_of_ne (Nat.ne_of_gt hj)]

/-- In any market a plan runs as if every command put out some amount of its own. -/
lemma exists_outputs_execute (l : Ledger) (m : Market) (cs : List Command) (value : Amount) :
    ∃ out : Nat → Nat, l.execute v m cs value = l.execute v (fun i _ _ => out i) cs value := by
  simp only [execute]
  cases l.pull v Sentinel.native Sentinel.router value.toNat with
  | none => exact ⟨fun _ => 0, rfl⟩
  | some l' => exact l'.exists_outputs m 0 cs

end Ledger

/-! ### One route -/

/-- Where every command puts out an amount of its own, the last one decides. -/
lemma Market.passed_const (out : Nat → Nat) (i : Nat) {cs : List Command} (hne : cs ≠ [])
    (n : Nat) : Market.passed (fun i _ _ => out i) i cs n = out (i + cs.length - 1) := by
  induction cs generalizing i n with
  | nil => exact absurd rfl hne
  | cons c cs ih =>
      rw [passed]
      rcases cs with _ | ⟨c', cs⟩
      · rfl
      · rw [ih (i + 1) (List.cons_ne_nil c' cs), List.length_cons (a := c)]
        congr 1
        omega

namespace BoostedRoute

lemma length_exactInputCommands {payee : Address} {least amount : Amount} {steps : List Step}
    {cs : List Command} (h : exactInputCommands payee least amount steps = .ok cs) :
    cs.length = steps.length := by
  induction steps generalizing amount cs with
  | nil =>
      obtain rfl := Except.ok.inj h
      rfl
  | cons s steps ih =>
      by_cases hne : steps = []
      · subst hne
        obtain ⟨c, -, rfl⟩ := exactInputCommands_singleton.mp h
        rfl
      · obtain ⟨c, cs', -, hcs', rfl⟩ := (exactInputCommands_cons hne).mp h
        rw [List.length_cons, ih hcs', List.length_cons]

end BoostedRoute

lemma Route.length_encode {r : Route} {t : RouteTerms} {cs : List Command} {least : Amount}
    (ht : t.tradeType = .exactInput) (h : r.encode t = .ok (cs, least)) :
    cs.length = r.stepCount ∧ cs ≠ [] := by
  cases r with
  | pooled r =>
      obtain ⟨path, -, rfl, -⟩ := (PoolRoute.encode_exactInput ht).mp h
      exact ⟨rfl, List.cons_ne_nil _ _⟩
  | boosted r =>
      simp only [encode, BoostedRoute.encode, ht, bind_eq_ok, pure_eq_ok, Prod.mk.injEq] at h
      obtain ⟨_, hcs, rfl, -⟩ := h
      have hlen := BoostedRoute.length_exactInputCommands hcs
      refine ⟨hlen, fun hnil => r.steps_ne_nil ?_⟩
      rw [hnil] at hlen
      exact List.eq_nil_of_length_eq_zero hlen.symm

/-- Two exchanges in a row are one. -/
lemma Ledger.exchange_exchange {v : Venue} {l : Ledger} {a b payee : Address}
    {spent spent' out out' : Nat} (h : spent + spent' ≤ l.balance v.router a) :
    (l.exchange v a b payee spent 0 out).exchange v a b payee spent' 0 out' =
      l.exchange v a b payee (spent + spent') 0 (out + out') := by
  ext account token
  simp only [balance_exchange]
  split_ifs with ha hb hb
  · obtain ⟨rfl, rfl⟩ := ha
    omega
  · obtain ⟨rfl, rfl⟩ := ha
    omega
  · omega
  · omega

namespace Trade

variable {v : Venue} {l : Ledger} {t : Trade} {o : SwapOptions} {out : Nat → Nat}

/-- A route with a fixed input spends just this, and runs through if its last step puts out the
minimum of the route. -/
lemma run_route_exactInput {s : TradeSwap} {terms : RouteTerms} {cs : List Command}
    {least : Amount} {i : Nat} (ht : t.tradeType = .exactInput) (hosts : v.Hosts t)
    (hs : s ∈ t.swaps) (hterms : t.terms o s = .ok terms)
    (hencode : s.route.encode terms = .ok (cs, least))
    (hlt : s.inputAmount.toNat < 2 ^ 255)
    (hholds : l.HoldsOnly v t.input.address t.output.address)
    (hfunds : s.inputAmount.toNat ≤ l.balance v.router t.input.address) :
    l.run v (fun i _ _ => out i) i cs =
      if terms.amountOut.toNat ≤ out (i + s.route.stepCount - 1) then
        some (l.exchange v t.input.address t.output.address (t.payee o) s.inputAmount.toNat 0
          (out (i + s.route.stepCount - 1)))
      else none := by
  obtain ⟨htype, hpayee, hin, -⟩ := terms_exactInput ht hterms
  obtain ⟨hlen, hne⟩ := Route.length_encode htype hencode
  rw [← t.input_address hs, ← t.output_address hs] at hholds
  rw [Route.run_exactInput htype hencode (hosts.vaults s hs) hholds, t.input_address hs,
    t.output_address hs, hpayee, hin]
  simp only [Ledger.sell, Ledger.resolve_of_lt _ hlt, Market.passed_const out i hne, hlen, hfunds,
    true_and, Ledger.exchange, Ledger.credit_zero]

/-! ### All routes -/

/-- Routes that are held to their minimum together run through whatever they put out. -/
lemma run_routes_aggregated (ht : t.tradeType = .exactInput) (hagg : t.isAggregated = true)
    (hosts : v.Hosts t) {swaps : List TradeSwap} {delivered total : Amount}
    {routes : List Command} {i : Nat} (hswaps : ∀ s ∈ swaps, s ∈ t.swaps)
    (hroutes : t.routeCommands o delivered swaps = .ok (routes, total))
    (hlt : totalIn swaps < 2 ^ 255)
    (hholds : l.HoldsOnly v t.input.address t.output.address)
    (hfunds : totalIn swaps ≤ l.balance v.router t.input.address) :
    l.run v (fun i _ _ => out i) i routes =
      some (l.exchange v t.input.address t.output.address (t.payee o) (totalIn swaps) 0
        (produced out i swaps)) := by
  induction swaps generalizing l delivered routes i with
  | nil =>
      rw [routeCommands_nil, Except.ok.injEq, Prod.mk.injEq] at hroutes
      obtain ⟨rfl, -⟩ := hroutes
      rw [Ledger.run_nil, Option.some.injEq]
      ext account token
      simp [Ledger.balance_exchange, totalIn, produced, lastPlaces]
  | cons s swaps ih =>
      obtain ⟨terms, cs, least, delivered', rest, hterms, hencode, -, hrest, rfl⟩ :=
        routeCommands_cons.mp hroutes
      rw [totalIn_cons] at hlt hfunds
      have hs := hswaps s List.mem_cons_self
      obtain ⟨htype, -, -, hleast⟩ := terms_exactInput ht hterms
      rw [if_pos hagg] at hleast
      rw [Ledger.run_append, run_route_exactInput ht hosts hs hterms hencode (by omega) hholds
        (by omega), hleast, Amount.toNat_zero, if_pos (Nat.zero_le _), Option.bind_some,
        (Route.length_encode htype hencode).1,
        ih (fun s hs => hswaps s (List.mem_cons_of_mem _ hs)) hrest (by omega)
          (hholds.exchange _ _ _ _), Ledger.exchange_exchange hfunds, totalIn_cons, produced_cons]
      rw [Ledger.balance_exchange, if_pos ⟨rfl, rfl⟩]
      omega

/-- Several routes run through whatever they put out; one alone is held to the minimum itself. -/
lemma run_routes_exactInput (ht : t.tradeType = .exactInput) (hosts : v.Hosts t)
    {minOut total : Amount} {routes : List Command} {i : Nat}
    (hmin : t.minimumOut o.slippage = .ok minOut)
    (hroutes : t.routeCommands o 0 t.swaps = .ok (routes, total))
    (hlt : totalIn t.swaps < 2 ^ 255)
    (hholds : l.HoldsOnly v t.input.address t.output.address)
    (hfunds : totalIn t.swaps ≤ l.balance v.router t.input.address) :
    l.run v (fun i _ _ => out i) i routes =
      if t.isAggregated = true ∨ minOut.toNat ≤ produced out i t.swaps then
        some (l.exchange v t.input.address t.output.address (t.payee o) (totalIn t.swaps) 0
          (produced out i t.swaps))
      else none := by
  cases hagg : t.isAggregated with
  | true =>
      rw [if_pos (.inl rfl)]
      exact run_routes_aggregated ht hagg hosts (fun _ hs => hs) hroutes hlt hholds hfunds
  | false =>
      have hrest : t.rest = [] := by simpa [isAggregated, ht] using hagg
      have hswaps : t.swaps = [t.first] := by rw [swaps, hrest]
      have hout : t.outputAmount = t.first.outputAmount := by
        refine BitVec.eq_of_toNat_eq ?_
        rw [toNat_outputAmount, hswaps, totalOut_cons]
        rfl
      have htotal : totalIn t.swaps = t.first.inputAmount.toNat := by
        rw [hswaps, totalIn_cons]
        rfl
      have hproduced : produced out i t.swaps = out (i + t.first.route.stepCount - 1) := by
        rw [hswaps, produced_cons]
        rfl
      rw [hswaps] at hroutes
      obtain ⟨terms, cs, least, _, rest, hterms, hencode, -, hnil, rfl⟩ :=
        routeCommands_cons.mp hroutes
      rw [routeCommands_nil, Except.ok.injEq, Prod.mk.injEq] at hnil
      obtain ⟨rfl, -⟩ := hnil
      obtain ⟨-, -, -, hleast⟩ := terms_exactInput ht hterms
      have hfirst : o.slippage.discount t.first.outputAmount = .ok minOut := by
        rw [minimumOut, ht, hout] at hmin
        exact hmin
      rw [hagg, if_neg Bool.false_ne_true, hfirst, Except.ok.injEq] at hleast
      rw [htotal] at hlt hfunds
      rw [List.append_nil, run_route_exactInput ht hosts List.mem_cons_self hterms hencode hlt
        hholds hfunds, ← hleast, htotal, hproduced]
      simp

/-! ### The whole plan -/

/-- The ledger behind the routes of a trade with a fixed input, all of which is spent. -/
def sold (t : Trade) (o : SwapOptions) (v : Venue) (l : Ledger) (sum : Nat) : Ledger :=
  (t.funded v l t.inputAmount.toNat).exchange v t.input.address t.output.address (t.payee o)
    (totalIn t.swaps) 0 sum

/-- Where the router collects the output, it has then just what the routes put out. -/
lemma sold_router (hempty : ∀ token, l.balance v.router token = 0) {sum : Nat}
    (hcustody : t.needsCustody = true) :
    (t.sold o v l sum).balance v.router t.output.address = sum := by
  rw [sold, Ledger.balance_exchange, holder_payee_of_custody hcustody, funded_router hempty,
    toNat_inputAmount]
  by_cases hsame : t.output.address = t.input.address
  · rw [if_pos ⟨rfl, hsame⟩, if_pos hsame, if_pos ⟨rfl, rfl⟩]
    omega
  · rw [if_neg fun hh => hsame hh.2, if_neg hsame, if_pos ⟨rfl, rfl⟩, Nat.zero_add]

/-- A plan runs through if the routes put out the minimum, wherever its commands ask for it. -/
lemma execute_exactInput {cs : List Command} {value minOut : Amount}
    (ht : t.tradeType = .exactInput) (hlt : t.inputAmount.toNat < 2 ^ 255)
    (h : t.commands o = .ok (cs, value)) (hmin : t.minimumOut o.slippage = .ok minOut)
    (hosts : v.Hosts t) (hempty : ∀ token, l.balance v.router token = 0)
    (hfunds : t.inputAmount.toNat ≤ l.balance v.user t.input.asset) (out : Nat → Nat) :
    let sum := produced out (o.permit.toList.length + 1) t.swaps
    l.execute v (fun i _ _ => out i) cs value =
      if minOut.toNat ≤ sum then some (t.settled o v (t.sold o v l sum)) else none := by
  obtain ⟨minOut', maxIn, routes, delivered, hmin', hmax, hroutes, heq⟩ := execute_eq h hosts
  obtain rfl := Except.ok.inj (hmin.symm.trans hmin')
  rw [maximumIn, ht, Except.ok.injEq] at hmax
  subst hmax
  rw [toNat_inputAmount] at hlt
  have hspend : totalIn t.swaps ≤
      (t.funded v l t.inputAmount.toNat).balance v.router t.input.address :=
    Nat.le_of_eq (by rw [funded_router hempty, if_pos rfl, toNat_inputAmount])
  intro sum
  rw [heq _ l (hempty _), if_pos hfunds, run_routes_exactInput ht hosts hmin hroutes hlt
    (funded_holdsOnly hempty _) hspend]
  change (ite _ (some (t.sold o v l sum)) none).bind _ = _
  simp only [ht]
  by_cases hle : minOut.toNat ≤ sum
  · rw [if_pos (.inr hle), Option.bind_some, if_pos hle,
      if_pos fun hcustody => by rw [sold_router hempty hcustody]; exact hle]
  · rw [if_neg hle]
    cases hagg : t.isAggregated with
    | true =>
        have hcustody : t.needsCustody = true := by rw [needsCustody, hagg, Bool.or_true]
        rw [if_pos (.inl rfl), Option.bind_some, if_neg]
        intro hpaid
        rw [sold_router hempty hcustody] at hpaid
        exact hle (hpaid hcustody)
    | false =>
        have hnot : ¬ (false = true ∨ minOut.toNat ≤ sum) := by simpa using hle
        rw [if_neg hnot, Option.bind_none]

/-- In the end the recipient has all of what the routes put out. -/
lemma settled_sold (ht : t.tradeType = .exactInput) (hosts : v.Hosts t)
    (hempty : ∀ token, l.balance v.router token = 0)
    (huser : v.holder o.recipient ≠ v.user) (hr : v.holder o.recipient ≠ v.router) (sum : Nat) :
    (t.settled o v (t.sold o v l sum)).balance (v.holder o.recipient) t.output.asset =
      l.balance (v.holder o.recipient) t.output.asset + sum := by
  have hholds := (funded_holdsOnly (t := t) hempty t.inputAmount.toNat).exchange (t.payee o)
    (totalIn t.swaps) 0 sum
  have hnative : (t.sold o v l sum).balance v.router Sentinel.native = 0 :=
    hholds _ hosts.input_ne.symm hosts.output_ne.symm
  have hpaid : (t.sold o v l sum).balance (v.holder o.recipient) t.output.asset =
      (t.funded v l t.inputAmount.toNat).balance (v.holder o.recipient) t.output.asset +
        if v.holder o.recipient = v.holder (t.payee o) ∧ t.output.asset = t.output.address then sum
        else 0 := by
    rw [sold, Ledger.balance_exchange, if_neg fun hh => hr hh.1]
  rw [settled_of_ne hr hnative fun hout => by simp [ht] at hout, paidOut_gain huser hr hpaid]
  split_ifs with hcustody
  · rw [sold_router hempty hcustody]
  · rfl

/-- **A plan with a fixed input enforces just the minimum of its trade.** In any market every
command puts out some amount of its own. From a router that holds nothing and a user who holds the
input, the plan runs through if and only if what the last steps of the routes put out adds up to the
minimum, and then the recipient gets all of it. -/
theorem exactInput_enforces_minimum {p : Plan} {value : Amount} (ht : t.tradeType = .exactInput)
    (hlt : t.inputAmount.toNat < 2 ^ 255) (h : t.plan o = .ok (p, value)) (hosts : v.Hosts t)
    (hempty : ∀ token, l.balance v.router token = 0)
    (hfunds : t.inputAmount.toNat ≤ l.balance v.user t.input.asset)
    (huser : v.holder o.recipient ≠ v.user) (hrouter : v.holder o.recipient ≠ v.router) :
    ∃ cs minOut, t.commands o = .ok (cs, value) ∧ p = .ofCommands cs ∧ p.RunsAs cs ∧
      t.minimumOut o.slippage = .ok minOut ∧
      (∀ m, ∃ out : Nat → Nat,
        l.execute v m cs value = l.execute v (fun i _ _ => out i) cs value) ∧
      ∀ out : Nat → Nat,
      let sum := produced out (o.permit.toList.length + 1) t.swaps
      ((l.execute v (fun i _ _ => out i) cs value).isSome ↔ minOut.toNat ≤ sum) ∧
        ∀ l', l.execute v (fun i _ _ => out i) cs value = some l' →
          l'.balance (v.holder o.recipient) t.output.asset =
            l.balance (v.holder o.recipient) t.output.asset + sum := by
  obtain ⟨cs, hcs, rfl⟩ := plan_eq_ok.mp h
  obtain ⟨minOut, -, -, -, -, hmin, -⟩ := commands_eq_ok hcs
  refine ⟨cs, minOut, hcs, rfl, runsAs_commands hcs, hmin,
    fun m => l.exists_outputs_execute m cs value, fun out => ?_⟩
  have hexecute := execute_exactInput ht hlt hcs hmin hosts hempty hfunds out
  simp only at hexecute ⊢
  rw [hexecute]
  refine ⟨by split_ifs with hle <;> simp [hle], fun l' hl' => ?_⟩
  rw [Option.ite_none_right_eq_some] at hl'
  rw [← Option.some.inj hl'.2, settled_sold ht hosts hempty huser hrouter]

end Trade

/-- Of two routes, one over a vault and both quoted to put out a hundred, the last commands stand at
the second and the third place after the intake. -/
theorem Sample.minimum_enforced : ∃ cs value,
    (trade .exactInput 60).plan options = .ok (.ofCommands cs, value) ∧ ∀ out : Nat → Nat,
      ((ledger.execute venue (fun i _ _ => out i) cs value).isSome ↔ 99 ≤ out 2 + out 3) ∧
        ∀ l', ledger.execute venue (fun i _ _ => out i) cs value = some l' →
          l'.balance options.recipient Sentinel.native = out 2 + out 3 := by
  have hpaid : paid .exactInput 60 (fun _ _ _ => 50) = some 100 := by decide +kernel
  obtain ⟨cs, value, -, hcs, -, -⟩ := exists_run hpaid
  have hplan := Trade.plan_eq_ok.mpr ⟨cs, hcs, rfl⟩
  obtain ⟨_, minOut, hcs', -, -, hmin, -, hruns⟩ := Trade.exactInput_enforces_minimum rfl
    (by decide +kernel) hplan venue_hosts router_empty (by decide +kernel) (by decide)
    recipient_ne_router
  obtain rfl := (Prod.mk.inj (Except.ok.inj (hcs.symm.trans hcs'))).1
  have hleast : (trade .exactInput 60).minimumOut options.slippage = .ok 99 :=
    eq_ok_of_toOption (by decide +kernel)
  obtain rfl : minOut = 99 := Except.ok.inj (hmin.symm.trans hleast)
  refine ⟨cs, value, hplan, fun out => ?_⟩
  have hsum : Trade.produced out (options.permit.toList.length + 1)
      (trade .exactInput 60).swaps = out 2 + out 3 := rfl
  obtain ⟨hiff, hgain⟩ := hruns out
  rw [hsum] at hiff hgain
  refine ⟨hiff, fun l' hrun => ?_⟩
  exact (hgain l' hrun).trans (Nat.zero_add _)

end SwapPlan

import SwapPlan.Quote.Plan
import SwapPlan.Proofs.Outcome

/-!
Quoting and encoding side by side. Both walk the steps of a route, the one by their positions and
the other by their order, and come to the same commands; a router's commands differ from them in
who gets the output and how much of it is demanded, and in nothing else.
-/

namespace SwapPlan

/-- A command of a route with its payee and its limit left out. -/
def Command.unbounded : Command → Command
  | swap side path _ exact _ => swap side path Sentinel.router exact 0
  | erc4626Wrap wrapper underlying _ amount _ =>
    erc4626Wrap wrapper underlying Sentinel.router amount 0
  | erc4626Unwrap wrapper _ amount _ => erc4626Unwrap wrapper Sentinel.router amount 0
  | c => c

lemma Step.command_unbounded (s : Step) (payee : Address) (amount least : Amount) :
    (s.command .exactInput payee amount least).map Command.unbounded =
      s.command .exactInput Sentinel.router amount 0 := by
  cases s with
  | wrap v => rfl
  | unwrap v => rfl
  | swap a b p =>
      simp only [Step.command]
      cases SwapPath.ofSwap a b p .exactInput <;> rfl

variable {amount : Amount}

namespace BoostedRoute

/-- Inside the router the last step is no other than those before it. -/
lemma exactInputCommands_router (s : Step) (steps : List Step) :
    exactInputCommands Sentinel.router 0 amount (s :: steps) = do
      let c ← s.command .exactInput Sentinel.router amount 0
      let cs ← exactInputCommands Sentinel.router 0 Sentinel.wholeBalance steps
      return c :: cs := by
  rcases steps with _ | ⟨s', steps⟩
  · simp only [exactInputCommands]
    cases s.command .exactInput Sentinel.router amount 0 <;> rfl
  · simp only [exactInputCommands]

lemma exactInputCommands_unbounded (payee : Address) (least amount : Amount) (steps : List Step) :
    (exactInputCommands payee least amount steps).map (List.map Command.unbounded) =
      exactInputCommands Sentinel.router 0 amount steps := by
  induction steps generalizing amount with
  | nil => rfl
  | cons s steps ih =>
      rw [exactInputCommands_router, ← ih]
      rcases steps with _ | ⟨s', steps⟩
      · rw [← s.command_unbounded payee amount least]
        simp only [exactInputCommands]
        cases s.command .exactInput payee amount least <;> rfl
      · rw [← s.command_unbounded Sentinel.router amount 0]
        simp only [exactInputCommands]
        cases s.command .exactInput Sentinel.router amount 0 with
        | error e => rfl
        | ok c =>
            change Except.map _ (_ >>= fun cs => pure (c :: cs)) = _
            generalize exactInputCommands payee least Sentinel.wholeBalance (s' :: steps) = rest
            cases rest <;> rfl

end BoostedRoute

namespace QuotePlan

/-- Only the first step of a quote spends the amount; the steps from `k` on are a chain. -/
lemma mapM_zipIdx (k : Nat) (steps : List Step) :
    ((steps.zipIdx k).mapM fun (s, i) =>
      s.command .exactInput Sentinel.router (if i = 0 then amount else Sentinel.wholeBalance) 0) =
        BoostedRoute.exactInputCommands Sentinel.router 0
          (if k = 0 then amount else Sentinel.wholeBalance) steps := by
  induction steps generalizing k with
  | nil => rfl
  | cons s steps ih =>
      rw [List.zipIdx_cons, List.mapM_cons, ih, BoostedRoute.exactInputCommands_router,
        if_neg (Nat.succ_ne_zero k)]

lemma commands_boosted (r : BoostedRoute) :
    (commands amount .exactInput (.boosted r)).map Prod.fst =
      BoostedRoute.exactInputCommands Sentinel.router 0 amount r.steps := by
  have hsteps : stepCommands amount r.steps =
      BoostedRoute.exactInputCommands Sentinel.router 0 amount r.steps := mapM_zipIdx 0 r.steps
  simp only [commands, hsteps]
  cases BoostedRoute.exactInputCommands Sentinel.router 0 amount r.steps <;> rfl

/-- The commands of a route under any terms are those of a quote but for payee and limit. -/
lemma encode_unbounded (r : Route) (t : RouteTerms) :
    (r.encode { t with tradeType := .exactInput }).map (fun out => out.1.map Command.unbounded) =
      (commands t.amountIn .exactInput r).map Prod.fst := by
  cases r with
  | pooled r =>
      simp only [commands, Route.encode, PoolRoute.encode]
      cases SwapPath.ofRoute r .exactInput <;> rfl
  | boosted r =>
      rw [commands_boosted,
        ← BoostedRoute.exactInputCommands_unbounded t.recipient t.amountOut]
      simp only [Route.encode, BoostedRoute.encode]
      cases BoostedRoute.exactInputCommands t.recipient t.amountOut t.amountIn r.steps <;> rfl

lemma encode_plain (r : Route) :
    (r.encode (.plain .exactInput Sentinel.router amount 0)).map Prod.fst =
      (commands amount .exactInput r).map Prod.fst := by
  cases r with
  | pooled r =>
      simp only [commands, Route.encode, PoolRoute.encode, RouteTerms.plain]
      cases SwapPath.ofRoute r .exactInput <;> rfl
  | boosted r =>
      rw [commands_boosted]
      simp only [Route.encode, BoostedRoute.encode, RouteTerms.plain]
      cases BoostedRoute.exactInputCommands Sentinel.router 0 amount r.steps <;> rfl

/-- The entries of a quote are those of a route that is encoded alone. -/
lemma map_plan {r : Route} {t : TradeType} {terms : RouteTerms}
    (h : (r.encode terms).map Prod.fst = (commands amount t r).map Prod.fst) :
    (ofRoute r amount t).map plan = (Plan.empty.pushRoute r terms).map Prod.fst := by
  have hquote : (ofRoute r amount t).map plan =
      ((commands amount t r).map Prod.fst).map Plan.ofCommands := by
    simp only [ofRoute]
    cases commands amount t r <;> rfl
  have hpush : (Plan.empty.pushRoute r terms).map Prod.fst =
      ((r.encode terms).map Prod.fst).map Plan.ofCommands := by
    simp only [Plan.pushRoute]
    cases r.encode terms <;> rfl
  rw [hquote, hpush, h]

/-- **A quote runs the commands of its route.** Its plan is that of the route encoded alone, inside
the router and without limits; and whatever the terms, the route's commands are those of the
quote but for payee and limit. -/
theorem ofRoute_mirrors_pushRoute (r : Route) (p : PoolRoute) (amount : Amount) (t : RouteTerms) :
    (ofRoute r amount .exactInput).map plan =
      (Plan.empty.pushRoute r (.plain .exactInput Sentinel.router amount 0)).map Prod.fst ∧
    (ofRoute (.pooled p) amount .exactOutput).map plan =
      (Plan.empty.pushRoute (.pooled p) (.plain .exactOutput Sentinel.router 0 amount)).map
        Prod.fst ∧
    (r.encode { t with tradeType := .exactInput }).map
        (fun out => out.1.map Command.unbounded) =
      (commands t.amountIn .exactInput r).map Prod.fst ∧
    ((Route.pooled p).encode { t with tradeType := .exactOutput }).map
        (fun out => out.1.map Command.unbounded) =
      (commands t.amountOut .exactOutput (.pooled p)).map Prod.fst := by
  refine ⟨map_plan (encode_plain r), map_plan ?_, encode_unbounded r t, ?_⟩
  · simp only [commands, Route.encode, PoolRoute.encode, RouteTerms.plain]
    cases SwapPath.ofRoute p .exactOutput <;> rfl
  · simp only [commands, Route.encode, PoolRoute.encode]
    cases SwapPath.ofRoute p .exactOutput <;> rfl

end QuotePlan

end SwapPlan

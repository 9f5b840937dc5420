import SwapPlan.Proofs.Ledger.Trade

/-!
What the router holds while a plan runs. Between routes it holds nothing but the input and the
output of the trade, and in the end nothing at all: what the user has handed over and the routes
have not spent goes back, and all output is paid out.
-/

namespace SwapPlan

namespace Ledger

variable {v : Venue} {l : Ledger}

/-- The router holds no token but two. -/
def HoldsOnly (v : Venue) (l : Ledger) (a b : Address) : Prop :=
  ∀ t, t ≠ a → t ≠ b → l.balance v.router t = 0

lemma balance_exchange (a b recipient : Address) (spent back out : Nat) (h t : Address) :
    (l.exchange v a b recipient spent back out).balance h t =
      (if h = v.router ∧ t = a then l.balance h t - spent + back else l.balance h t) +
        if h = v.holder recipient ∧ t = b then out else 0 := by
  simp only [exchange, balance_credit, balance_debit]
  split_ifs <;> omega

lemma HoldsOnly.exchange {a b : Address} (h : l.HoldsOnly v a b) (recipient : Address)
    (spent back out : Nat) : (l.exchange v a b recipient spent back out).HoldsOnly v a b := by
  intro t hta htb
  rw [balance_exchange, if_neg fun hh => hta hh.2, if_neg fun hh => htb hh.2]
  exact h t hta htb

end Ledger

namespace Trade

open Ledger (balance_exchange release_router le_release release_of_ne)

variable {v : Venue} {m : Market} {l l' : Ledger} {t : Trade} {o : SwapOptions}

/-! ### Routes -/

/-- A route of a trade that does not fail exchanges some of the input, of a fixed output at most its
budget, for at least its minimum. -/
lemma run_route {s : TradeSwap} {terms : RouteTerms} {cs : List Command} {least : Amount} {i : Nat}
    (hosts : v.Hosts t) (hs : s ∈ t.swaps) (hterms : t.terms o s = .ok terms)
    (hencode : s.route.encode terms = .ok (cs, least))
    (hholds : l.HoldsOnly v t.input.address t.output.address) (hrun : l.run v m i cs = some l') :
    ∃ spent back out, spent ≤ l.balance v.router t.input.address ∧
      (t.tradeType = .exactInput →
        spent = l.resolve v t.input.address s.inputAmount ∧ back = 0) ∧
      (t.tradeType = .exactOutput → least.toNat ≤ out ∧
        (o.slippage.raise s.inputAmount.toNat < 2 ^ 255 →
          spent ≤ o.slippage.raise s.inputAmount.toNat)) ∧
      l' = l.exchange v t.input.address t.output.address (t.payee o) spent back out := by
  rw [← t.input_address hs, ← t.output_address hs] at hholds ⊢
  obtain ⟨htype, hpayee⟩ := terms_tradeType hterms
  have hv := hosts.vaults s hs
  cases ht : t.tradeType with
  | exactInput =>
      obtain ⟨-, -, hin, -⟩ := terms_exactInput ht hterms
      rw [Route.run_exactInput (htype.trans ht) hencode hv hholds, Ledger.sell_eq_some, hpayee,
        hin] at hrun
      obtain ⟨⟨hle, -⟩, rfl⟩ := hrun
      exact ⟨_, 0, _, hle, fun _ => ⟨rfl, rfl⟩, fun h => by simp at h, rfl⟩
  | exactOutput =>
      obtain ⟨-, -, hin, -, hquoted, -⟩ := terms_exactOutput ht hterms
      obtain ⟨spent, back, out, hle, hout, hspent, rfl⟩ :=
        Route.run_exactOutput (htype.trans ht) hencode hv hholds hrun
      rw [hin, hquoted] at hspent
      rw [hpayee]
      exact ⟨spent, back, out, hle, fun h => by simp at h,
        fun _ => ⟨hout, fun hlt => hspent hlt (o.slippage.le_raise _)⟩, rfl⟩

/-- **What every exchange of a route keeps, the run of all routes keeps.** The property may speak of
the swaps still to come and of the least that those before them deliver. -/
theorem routes_keep {P : List TradeSwap → Nat → Ledger → Prop} (hosts : v.Hosts t)
    (hstep : ∀ s swaps delivered l spent back out least, s ∈ t.swaps →
      spent ≤ l.balance v.router t.input.address →
      (t.tradeType = .exactInput → spent = l.resolve v t.input.address s.inputAmount ∧ back = 0) →
      (t.tradeType = .exactOutput → least ≤ out) → P (s :: swaps) delivered l →
      P swaps (delivered + least)
        (l.exchange v t.input.address t.output.address (t.payee o) spent back out))
    {swaps : List TradeSwap} {delivered total : Amount} {routes : List Command} {i : Nat}
    (hswaps : ∀ s ∈ swaps, s ∈ t.swaps)
    (hroutes : t.routeCommands o delivered swaps = .ok (routes, total))
    (hholds : l.HoldsOnly v t.input.address t.output.address) (hP : P swaps delivered.toNat l)
    (hrun : l.run v m i routes = some l') :
    l'.HoldsOnly v t.input.address t.output.address ∧ P [] total.toNat l' := by
  induction swaps generalizing l delivered routes i with
  | nil =>
      rw [routeCommands_nil, Except.ok.injEq, Prod.mk.injEq] at hroutes
      obtain ⟨rfl, rfl⟩ := hroutes
      obtain rfl := Option.some.inj hrun
      exact ⟨hholds, hP⟩
  | cons s swaps ih =>
      obtain ⟨terms, cs, least, delivered', rest, hterms, hencode, hadd, hrest, rfl⟩ :=
        routeCommands_cons.mp hroutes
      rw [Ledger.run_append, Option.bind_eq_some_iff] at hrun
      obtain ⟨l₁, hrun, hrun'⟩ := hrun
      have hs := hswaps s List.mem_cons_self
      obtain ⟨spent, back, out, hle, hin, hout, rfl⟩ :=
        run_route hosts hs hterms hencode hholds hrun
      refine ih (fun s hs => hswaps s (List.mem_cons_of_mem _ hs)) hrest
        (hholds.exchange _ _ _ _) ?_ hrun'
      rw [hadd]
      exact hstep s swaps _ l spent back out least.toNat hs hle hin (fun ht => (hout ht).1) hP

lemma holder_payee_of_custody (h : t.needsCustody = true) : v.holder (t.payee o) = v.router := by
  rw [payee, if_pos h, Venue.holder_router]

lemma payee_of_not_custody (h : t.needsCustody = false) : t.payee o = o.recipient := by
  rw [payee, h, if_neg Bool.false_ne_true]

/-- A currency that is paid out directly is kept under its own address. -/
lemma output_asset_of_not_custody (h : t.needsCustody = false) :
    t.output.asset = t.output.address := by
  rw [needsCustody, Bool.or_eq_false_iff] at h
  rw [Currency.asset, h.1, if_neg Bool.false_ne_true]

/-! ### Before and after the routes -/

lemma funded_router (hempty : ∀ token, l.balance v.router token = 0) (n : Nat) (token : Address) :
    (t.funded v l n).balance v.router token = if token = t.input.address then n else 0 := by
  have hne : ∀ a, ¬ (v.router = v.user ∧ a = t.input.asset) := fun a h => v.user_ne_router h.1.symm
  rw [funded, Ledger.balance_credit, Ledger.balance_debit_of_ne _ (hne token), hempty]
  simp

lemma funded_holdsOnly (hempty : ∀ token, l.balance v.router token = 0) (n : Nat) :
    (t.funded v l n).HoldsOnly v t.input.address t.output.address := by
  intro token hin _
  rw [funded_router hempty, if_neg hin]

lemma funded_of_ne {h : Address} (hr : h ≠ v.router) (n : Nat) (token : Address) :
    (t.funded v l n).balance h token = (l.debit v.user t.input.asset n).balance h token := by
  rw [funded, Ledger.balance_credit_of_ne _ fun hh => hr hh.1]

/-- In the end the router has nothing of a token of which it had nothing, or which it pays out or
returns, unless that comes back to it as the recipient. -/
lemma settled_router {token : Address}
    (hself : v.holder o.recipient = v.router → token ≠ t.input.asset ∧ token ≠ t.output.asset)
    (h : l.balance v.router token = 0 ∨ (t.needsCustody = true ∧ token = t.output.address) ∨
      (t.tradeType = .exactOutput ∧ token = t.input.address)) :
    (t.settled o v l).balance v.router token = 0 := by
  have hpaid : (t.paidOut o v l).balance v.router token = 0 ∨
      (t.tradeType = .exactOutput ∧ token = t.input.address) := by
    rw [paidOut]
    rcases h with h | ⟨hcustody, htoken⟩ | h
    · split_ifs
      · exact .inl (release_router (.inr h) fun hr heq => absurd heq (hself hr).2)
      · exact .inl h
    · rw [if_pos hcustody]
      exact .inl (release_router (.inl htoken) fun hr heq => absurd heq (hself hr).2)
    · exact .inr h
  have hrefunded : (t.refunded o v (t.paidOut o v l)).balance v.router token = 0 := by
    rw [refunded]
    rcases hpaid with h | ⟨htype, htoken⟩
    · split_ifs
      · exact release_router (.inr h) fun hr heq => absurd heq (hself hr).1
      · exact h
    · rw [if_pos htype]
      exact release_router (.inl htoken) fun hr heq => absurd heq (hself hr).1
  rw [settled, swept]
  split_ifs
  · refine release_router (.inr hrefunded) fun _ heq => ?_
    rw [← heq, hrefunded]
  · exact hrefunded

lemma le_settled {account : Address} (hr : account ≠ v.router) (token : Address) :
    (t.paidOut o v l).balance account token ≤ (t.settled o v l).balance account token := by
  have hrefunded : (t.paidOut o v l).balance account token ≤
      (t.refunded o v (t.paidOut o v l)).balance account token := by
    rw [refunded]
    split_ifs
    · exact le_release hr token
    · exact Nat.le_refl _
  refine Nat.le_trans hrefunded ?_
  rw [settled, swept]
  split_ifs
  · exact le_release hr token
  · exact Nat.le_refl _

lemma le_paidOut {account : Address} (hr : account ≠ v.router) (token : Address) :
    l.balance account token ≤ (t.paidOut o v l).balance account token := by
  rw [paidOut]
  split_ifs
  · exact le_release hr token
  · exact Nat.le_refl _

/-- After the payout only the recipient gets something, and only of the input. -/
lemma settled_of_ne {account token : Address} (hr : account ≠ v.router)
    (hnative : l.balance v.router Sentinel.native = 0)
    (hne : t.tradeType = .exactOutput → account = v.holder o.recipient → token ≠ t.input.asset) :
    (t.settled o v l).balance account token = (t.paidOut o v l).balance account token := by
  have hrefunded : (t.refunded o v (t.paidOut o v l)).balance account token =
      (t.paidOut o v l).balance account token := by
    rw [refunded]
    split_ifs with htype
    · exact release_of_ne hr (.inl fun h => hne htype h.1 h.2)
    · rfl
  rw [settled, swept]
  split_ifs
  · by_cases haccount : account = v.holder o.recipient
    · -- The recipient is not the router, so that nothing native has come in.
      have hself : v.holder o.recipient ≠ v.router := by rwa [← haccount]
      have hpaid : (t.paidOut o v l).balance v.router Sentinel.native = 0 := by
        rw [paidOut]
        split_ifs
        · exact release_router (.inr hnative) fun h => absurd h hself
        · exact hnative
      have hzero : (t.refunded o v (t.paidOut o v l)).balance v.router Sentinel.native = 0 := by
        rw [refunded]
        split_ifs
        · exact release_router (.inr hpaid) fun h => absurd h hself
        · exact hpaid
      rw [release_of_ne hr (.inr hzero), hrefunded]
    · rw [release_of_ne hr (.inl fun h => haccount h.1), hrefunded]
  · exact hrefunded

lemma paidOut_recipient (hr : v.holder o.recipient ≠ v.router) :
    (t.paidOut o v l).balance (v.holder o.recipient) t.output.asset =
      l.balance (v.holder o.recipient) t.output.asset +
        if t.needsCustody then l.balance v.router t.output.address else 0 := by
  rw [paidOut]
  split_ifs
  · rw [Ledger.balance_release, if_neg fun h => hr h.1, if_pos ⟨rfl, rfl⟩]
  · rw [Nat.add_zero]

/-- The recipient gets what the routes paid it, or what they left in the router. -/
lemma paidOut_gain {n sum : Nat} (huser : v.holder o.recipient ≠ v.user)
    (hr : v.holder o.recipient ≠ v.router)
    (h : l'.balance (v.holder o.recipient) t.output.asset =
      (t.funded v l n).balance (v.holder o.recipient) t.output.asset +
        if v.holder o.recipient = v.holder (t.payee o) ∧ t.output.asset = t.output.address then sum
        else 0) :
    (t.paidOut o v l').balance (v.holder o.recipient) t.output.asset =
      l.balance (v.holder o.recipient) t.output.asset +
        if t.needsCustody then l'.balance v.router t.output.address else sum := by
  rw [paidOut_recipient hr, h, funded_of_ne hr, Ledger.balance_debit_of_ne _ fun hh => huser hh.1]
  cases hcustody : t.needsCustody with
  | true =>
      have hself : v.holder o.recipient ≠ v.holder (t.payee o) := by
        rw [holder_payee_of_custody hcustody]
        exact hr
      rw [if_neg fun hh => hself hh.1, Nat.add_zero, if_pos rfl, if_pos rfl]
  | false =>
      rw [payee_of_not_custody hcustody, if_pos ⟨rfl, output_asset_of_not_custody hcustody⟩,
        if_neg Bool.false_ne_true, if_neg Bool.false_ne_true, Nat.add_zero]

lemma paidOut_of_ne {account token : Address} (hr : account ≠ v.router)
    (hne : account = v.holder o.recipient → token ≠ t.output.asset) :
    (t.paidOut o v l).balance account token = l.balance account token := by
  rw [paidOut]
  split_ifs
  · exact release_of_ne hr (.inl fun h => hne h.1 h.2)
  · rfl

/-! ### The whole plan -/

/-- What holds between the routes of a trade since the user has handed the input over. Outside the
router only the recipient of the output has got something, the router has no output that it does not
collect, and of a fixed input no more than the routes to come spend. -/
structure InCustody (t : Trade) (o : SwapOptions) (v : Venue) (start : Ledger)
    (swaps : List TradeSwap) (l : Ledger) : Prop where
  gains : ∀ account, account ≠ v.router → ∀ token,
    start.balance account token ≤ l.balance account token ∧
      (l.balance account token = start.balance account token ∨ (t.needsCustody = false ∧
        account = v.holder o.recipient ∧ token = t.output.address))
  output : t.input.address ≠ t.output.address → v.holder (t.payee o) ≠ v.router →
    l.balance v.router t.output.address = 0
  input : t.tradeType = .exactInput →
    t.input.address ≠ t.output.address ∨ v.holder (t.payee o) ≠ v.router →
      l.balance v.router t.input.address ≤ totalIn swaps

/-- An exchange keeps custody. -/
lemma InCustody.exchange {start : Ledger} {s : TradeSwap} {swaps : List TradeSwap}
    {spent back out : Nat} (h : InCustody t o v start (s :: swaps) l)
    (hin : t.tradeType = .exactInput →
      spent = l.resolve v t.input.address s.inputAmount ∧ back = 0) :
    InCustody t o v start swaps
      (l.exchange v t.input.address t.output.address (t.payee o) spent back out) where
  gains account hr token := by
    rw [balance_exchange, if_neg fun hh => hr hh.1]
    obtain ⟨hle, heq⟩ := h.gains account hr token
    by_cases hpaid : account = v.holder (t.payee o) ∧ token = t.output.address
    · obtain ⟨haccount, htoken⟩ := hpaid
      have hcustody : t.needsCustody = false := by
        by_contra hcustody
        rw [holder_payee_of_custody (by simpa using hcustody)] at haccount
        exact hr haccount
      rw [payee_of_not_custody hcustody] at haccount
      exact ⟨Nat.le_add_right_of_le hle, .inr ⟨hcustody, haccount, htoken⟩⟩
    · rw [if_neg hpaid, Nat.add_zero]
      exact ⟨hle, heq⟩
  output hne hpayee := by
    rw [balance_exchange, if_neg fun hh => hne hh.2.symm, if_neg fun hh => hpayee hh.1.symm]
    exact h.output hne hpayee
  input htype hne := by
    obtain ⟨rfl, rfl⟩ := hin htype
    have hkept : ¬ (v.router = v.holder (t.payee o) ∧ t.input.address = t.output.address) :=
      fun hh => hne.elim (fun h => h hh.2) fun h => h hh.1.symm
    have hle := h.input htype hne
    rw [totalIn_cons] at hle
    rw [balance_exchange, if_pos ⟨rfl, rfl⟩, if_neg hkept, Ledger.resolve]
    -- The sentinel takes all there is, which is no less than what it stands for.
    split_ifs <;> omega

/-- Behind the last route the router holds nothing but what it pays out or returns, and nothing of
the output unless it collects it. -/
lemma InCustody.settled {start : Ledger} {token : Address} (h : InCustody t o v start [] l)
    (hholds : l.HoldsOnly v t.input.address t.output.address)
    (hself : v.holder o.recipient = v.router → token ≠ t.input.asset ∧ token ≠ t.output.asset) :
    (t.settled o v l).balance v.router token = 0 := by
  refine settled_router hself ?_
  -- Where the router does not collect the output, it goes to another account.
  have hpayee : t.needsCustody = false → token = t.output.address →
      v.holder (t.payee o) ≠ v.router := by
    intro hdirect htoken hpayee
    rw [payee_of_not_custody hdirect] at hpayee
    exact (hself hpayee).2 (htoken.trans (output_asset_of_not_custody hdirect).symm)
  have hinput : t.input.address ≠ t.output.address ∨ v.holder (t.payee o) ≠ v.router →
      token = t.input.address → l.balance v.router token = 0 ∨
        (t.tradeType = .exactOutput ∧ token = t.input.address) := by
    rintro hne rfl
    cases htype : t.tradeType with
    | exactInput => exact .inl (Nat.le_zero.mp (h.input htype hne))
    | exactOutput => exact .inr ⟨rfl, rfl⟩
  by_cases hout : token = t.output.address
  · cases hneeds : t.needsCustody with
    | true => exact .inr (.inl ⟨rfl, hout⟩)
    | false =>
        have hpayee := hpayee hneeds hout
        by_cases hin : token = t.input.address
        · exact (hinput (.inr hpayee) hin).imp_right .inr
        · rw [hout]
          exact .inl (h.output (fun hsame => hin (hout.trans hsame.symm)) hpayee)
  · by_cases hin : token = t.input.address
    · exact (hinput (.inl fun hsame => hout (hin.trans hsame)) hin).imp_right .inr
    · exact .inl (hholds token hin hout)

/-- What an account has in the end, it had when the routes began, or it is what the recipient
gets. -/
lemma InCustody.gains_settled {start : Ledger} (h : InCustody t o v start [] l)
    (hnative : l.balance v.router Sentinel.native = 0) {account : Address}
    (hr : account ≠ v.router) (token : Address) :
    start.balance account token ≤ (t.settled o v l).balance account token ∧
      ((t.settled o v l).balance account token = start.balance account token ∨
        (account = v.holder o.recipient ∧ (token = t.input.asset ∨ token = t.output.asset))) := by
  obtain ⟨hle, heq⟩ := h.gains account hr token
  refine ⟨Nat.le_trans hle (Nat.le_trans (le_paidOut hr token) (le_settled hr token)), ?_⟩
  by_cases hrecipient : account = v.holder o.recipient ∧
      (token = t.input.asset ∨ token = t.output.asset)
  · exact .inr hrecipient
  · refine .inl ?_
    have hin : account = v.holder o.recipient → token ≠ t.input.asset :=
      fun h h' => hrecipient ⟨h, .inl h'⟩
    have hout : account = v.holder o.recipient → token ≠ t.output.asset :=
      fun h h' => hrecipient ⟨h, .inr h'⟩
    rw [settled_of_ne hr hnative fun _ => hin, paidOut_of_ne hr hout]
    refine heq.resolve_right ?_
    rintro ⟨hdirect, haccount, htoken⟩
    exact hout haccount (htoken.trans (output_asset_of_not_custody hdirect).symm)

/-- A trade is in custody as soon as the user has handed the input over. -/
lemma InCustody.funded {maxIn : Amount} (hempty : ∀ token, l.balance v.router token = 0)
    (hmax : t.maximumIn o.slippage = .ok maxIn) :
    InCustody t o v (t.funded v l maxIn.toNat) t.swaps (t.funded v l maxIn.toNat) where
  gains _ _ _ := ⟨Nat.le_refl _, .inl rfl⟩
  output hne _ := by rw [funded_router hempty, if_neg hne.symm]
  input htype _ := by
    rw [maximumIn, htype, Except.ok.injEq] at hmax
    exact Nat.le_of_eq (by rw [funded_router hempty, if_pos rfl, ← hmax, toNat_inputAmount])

/-- **The router keeps nothing of a trade.** If a plan runs through from a router that holds
nothing, then the user has handed over just the most that the trade takes in, no other account has
lost anything, and none but the recipient has got anything, and this only of the input and the
output. The router is left with nothing, unless it is the recipient itself. -/
theorem custody_conserved {p : Plan} {value : Amount} (h : t.plan o = .ok (p, value))
    (hosts : v.Hosts t) (hempty : ∀ token, l.balance v.router token = 0) :
    ∃ cs, t.commands o = .ok (cs, value) ∧ p = .ofCommands cs ∧ p.RunsAs cs ∧
      ∀ m l', l.execute v m cs value = some l' → ∃ maxIn, t.maximumIn o.slippage = .ok maxIn ∧
        maxIn.toNat ≤ l.balance v.user t.input.asset ∧
        (∀ token, l'.balance v.router token = 0 ∨ (v.holder o.recipient = v.router ∧
          (token = t.input.asset ∨ token = t.output.asset))) ∧
        ∀ account, account ≠ v.router → ∀ token,
          let before := (l.debit v.user t.input.asset maxIn.toNat).balance account token
          before ≤ l'.balance account token ∧
            (l'.balance account token = before ∨ (account = v.holder o.recipient ∧
              (token = t.input.asset ∨ token = t.output.asset))) := by
  obtain ⟨cs, hcs, rfl⟩ := plan_eq_ok.mp h
  obtain ⟨minOut, maxIn, routes, delivered, -, hmax, hroutes, heq⟩ := execute_eq hcs hosts
  refine ⟨cs, hcs, rfl, runsAs_commands hcs, fun m l' hrun => ?_⟩
  rw [heq m l (hempty _), Option.ite_none_right_eq_some, Option.bind_eq_some_iff] at hrun
  obtain ⟨hfunds, l₁, hrun, hclosing⟩ := hrun
  rw [Option.ite_none_right_eq_some] at hclosing
  obtain ⟨-, hsettled⟩ := hclosing
  obtain rfl := Option.some.inj hsettled
  obtain ⟨hholds, hcustody⟩ := routes_keep (P := fun swaps _ l => InCustody t o v _ swaps l) hosts
    (fun s swaps _ l spent back out least _ _ hin _ h => h.exchange hin) (fun _ hs => hs) hroutes
    (funded_holdsOnly hempty maxIn.toNat) (InCustody.funded hempty hmax) hrun
  have hnative : l₁.balance v.router Sentinel.native = 0 :=
    hholds _ hosts.input_ne.symm hosts.output_ne.symm
  refine ⟨maxIn, hmax, hfunds, fun token => ?_, fun account hr token => ?_⟩
  · by_cases hself : v.holder o.recipient = v.router →
      token ≠ t.input.asset ∧ token ≠ t.output.asset
    · exact .inl (hcustody.settled hholds hself)
    · rw [Classical.not_imp] at hself
      refine .inr ⟨hself.1, ?_⟩
      by_contra hnot
      exact hself.2 ⟨fun h => hnot (.inl h), fun h => hnot (.inr h)⟩
  · have hgains := hcustody.gains_settled hnative hr token
    rwa [funded_of_ne hr] at hgains

end Trade

/-! ### A trade over two routes -/

namespace Sample

def token (n : Nat) : Token := ⟨1, .ofNat n, 18, none⟩

def share : Vault := ⟨token 0xb1, token 0xa1⟩

/-- A token into the native currency by way of its vault. -/
def boosted : BoostedRoute where
  path := [.token (token 0xa1), .vault share, .native 1 (token 0xe0)]
  pools := [⟨.vault share, .token (token 0xe0), .v3 500 0 0 0⟩]
  steps := [.wrap share, .swap (.vault share) (.native 1 (token 0xe0))
    ⟨.vault share, .token (token 0xe0), .v3 500 0 0 0⟩]
  sound := rfl

/-- The same without the vault. -/
def pooled : PoolRoute where
  protocol := .v2
  path := [.token (token 0xa1), .native 1 (token 0xe0)]
  pools := [⟨.token (token 0xa1), .token (token 0xe0), .v2 0 0⟩]
  sound := by decide +kernel

/-- A trade over both routes, in which the step amounts of the first name an output of their own. -/
def trade (tradeType : TradeType) (lastStep : Amount) : Trade where
  tradeType
  first := ⟨.boosted boosted, 250, 60, some [500, lastStep]⟩
  rest := [⟨.pooled pooled, 500, 40, none⟩]
  sound := by
    have hsound : Trade.fault? boosted.input boosted.output 0 0 0
        [⟨.boosted boosted, 250, 60, none⟩, ⟨.pooled pooled, 500, 40, none⟩] = none := by
      decide +kernel
    exact hsound

def options : SwapOptions :=
  { SwapOptions.plain (.ofNat 0x77) ⟨50, 10000, by decide, by decide⟩ with safeMode := true }

def venue : Venue where
  user := .ofNat 0x10
  router := .ofNat 0x20
  weth := .ofNat 0xe0
  underlying a := if a = .ofNat 0xb1 then some (.ofNat 0xa1) else none
  user_ne_router := by decide

/-- Only the user has something, and only of the input. -/
def ledger : Ledger where
  balance account token := if account = .ofNat 0x10 ∧ token = .ofNat 0xa1 then 1000 else 0

variable {tradeType : TradeType} {lastStep : Amount}

lemma route_of_mem {s : TradeSwap} (hs : s ∈ (trade tradeType lastStep).swaps) :
    s.route = .boosted boosted ∨ s.route = .pooled pooled := by
  rcases List.mem_cons.mp hs with rfl | hs
  · exact .inl rfl
  · rw [List.mem_singleton.mp hs]
    exact .inr rfl

lemma venue_hosts : venue.Hosts (trade tradeType lastStep) where
  wraps s hs := by
    rcases route_of_mem hs with h | h <;> rw [h] <;> decide +kernel
  nonzero s hs := by
    rcases route_of_mem hs with h | h <;> rw [h] <;> decide +kernel
  vaults s hs w hw := by
    obtain rfl : w = share := by
      rcases route_of_mem hs with h | h <;> rw [h] at hw
      · simpa [boosted, Route.path] using hw
      · simp [pooled, Route.path] at hw
    simp [Venue.Knows, venue, share, token, Vault.address]

lemma router_empty (token : Address) : ledger.balance venue.router token = 0 := by
  have h : venue.router ≠ .ofNat 0x10 := by decide
  simp [ledger, h]

lemma recipient_ne_router : venue.holder options.recipient ≠ venue.router := by decide

/-- What the recipient gets in a market, if the plan of a trade runs through there. -/
def paid (tradeType : TradeType) (lastStep : Amount) (m : Market) : Option Nat := do
  let (cs, value) ← ((trade tradeType lastStep).commands options).toOption
  let l' ← ledger.execute venue m cs value
  return l'.balance options.recipient Sentinel.native

lemma exists_run {m : Market} {n : Nat} (h : paid tradeType lastStep m = some n) :
    ∃ cs value l', (trade tradeType lastStep).commands options = .ok (cs, value) ∧
      ledger.execute venue m cs value = some l' ∧
        l'.balance options.recipient Sentinel.native = n := by
  simp only [paid, Option.bind_eq_bind, Option.bind_eq_some_iff, pure, Option.some.injEq] at h
  obtain ⟨⟨cs, value⟩, hcs, l', hrun, hn⟩ := h
  exact ⟨cs, value, l', eq_ok_of_toOption hcs, hrun, hn⟩

lemma inputs_fit {cs : List Command} {value : Amount}
    (h : (trade .exactOutput 60).commands options = .ok (cs, value)) :
    ∀ input ∈ (Plan.ofCommands cs).inputs, input.length < 2 ^ 256 := by
  have hfit : ((trade .exactOutput 60).commands options).toOption.all (fun (cs, _) =>
      decide (∀ input ∈ (Plan.ofCommands cs).inputs, input.length < 2 ^ 256)) = true := by
    decide +kernel
  rw [h] at hfit
  exact of_decide_eq_true hfit

/-- The plan of such a trade, read entry by entry, runs through in some market, and leaves the
router empty in any. -/
theorem router_left_empty : ∃ cs value,
    (trade .exactOutput 60).plan options = .ok (.ofCommands cs, value) ∧
      (∀ m, ledger.executePlan venue m (.ofCommands cs) value =
        ledger.execute venue m cs value) ∧
      (∃ m, (ledger.execute venue m cs value).isSome) ∧
      ∀ m l', ledger.execute venue m cs value = some l' →
        ∀ token, l'.balance venue.router token = 0 := by
  have hpaid : paid .exactOutput 60 (fun _ _ _ => 0) = some 100 := by decide +kernel
  obtain ⟨cs, value, l', hcs, hrun, -⟩ := exists_run hpaid
  have hplan := Trade.plan_eq_ok.mpr ⟨cs, hcs, rfl⟩
  obtain ⟨_, hcs', -, hread, hruns⟩ := Trade.custody_conserved hplan venue_hosts router_empty
  obtain rfl := (Prod.mk.inj (Except.ok.inj (hcs.symm.trans hcs'))).1
  refine ⟨cs, value, hplan, fun m => hread (inputs_fit hcs) venue ledger m value,
    ⟨_, Option.isSome_of_eq_some hrun⟩, fun m l' hrun token => ?_⟩
  obtain ⟨-, -, -, hrouter, -⟩ := hruns m l' hrun
  exact (hrouter token).resolve_right fun hself => recipient_ne_router hself.1

end Sample

end SwapPlan

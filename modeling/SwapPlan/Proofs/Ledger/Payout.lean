import SwapPlan.Proofs.Ledger.Fill

/-!
The payout of a trade with a fixed output for the native currency. The router collects what the
routes deliver, each at least what the encoder counts for it, and no route spends what another has
delivered, even where the input is the same token. So the payout, which asks for the sum of what is
counted, finds it in every market.
-/

namespace SwapPlan

/-! ### Receipts -/

namespace Ledger

variable (v : Venue) (l : Ledger) (answer : Nat → Nat)

/-- What a command pays out: to whom, of which token, and how much. -/
def payment? : Command → Option (Address × Address × Nat)
  | .permit2TransferFrom token recipient amount => some (recipient, token, amount.toNat)
  | .wrapEth recipient amount => some (recipient, v.weth, l.resolve v Sentinel.native amount)
  | .unwrapWeth recipient _ => some (recipient, Sentinel.native, l.balance v.router v.weth)
  | .sweep token recipient _ => some (recipient, token, l.balance v.router token)
  | .swap side path recipient exact _ => do
    let (a, b) ← path.ends side
    match side with
    | .exactInput => some (recipient, b, answer (l.resolve v a exact))
    | .exactOutput => some (recipient, b, exact.toNat)
  | .erc4626Wrap wrapper underlying recipient amount _ =>
    some (recipient, wrapper, answer (l.resolve v underlying amount))
  | .erc4626Unwrap wrapper recipient amount _ => do
    some (recipient, ← v.underlying wrapper, answer (l.resolve v wrapper amount))
  | .permit2Permit _ | .boostedSwapExactOut .. | .executeSubPlan .. => none

/-- What a command pays the router of a token. -/
def receipt (token : Address) (c : Command) : Nat :=
  match l.payment? v answer c with
  | some (recipient, b, n) => if v.holder recipient = v.router ∧ b = token then n else 0
  | none => 0

/-- What commands at a place of a plan pay the router of a token in a run. -/
def received (m : Market) (token : Address) : (place : Nat) → List Command → Ledger → Nat
  | _, [], _ => 0
  | i, c :: cs, l =>
    l.receipt v (m i c) token c +
      ((l.perform v (m i c) c).map (received m token (i + 1) cs)).getD 0

variable {v l answer} {l' : Ledger} {token : Address} {m : Market} {i : Nat} {c : Command}
  {cs : List Command}

/-- Whatever a command takes, its payment is all that it gives. -/
lemma perform_eq_some (h : l.perform v answer c = some l') :
    (l.payment? v answer c = none ∧ l' = l) ∨ ∃ payer sold spent recipient b n,
      l.payment? v answer c = some (recipient, b, n) ∧
        l' = (l.debit payer sold spent).credit (v.holder recipient) b n := by
  have hsell {a b recipient : Address} {amount least : Amount} {yield : Nat → Nat}
      (h : l.sell v a b recipient amount least yield = some l') :
      l' = (l.debit v.router a (l.resolve v a amount)).credit (v.holder recipient) b
        (yield (l.resolve v a amount)) := by
    obtain ⟨-, rfl⟩ := sell_eq_some.mp h
    rw [exchange, credit_zero]
  cases c with
  | permit2Permit p => exact .inl ⟨rfl, (Option.some.inj h).symm⟩
  | permit2TransferFrom token recipient amount =>
      simp only [perform, pull, Option.ite_none_right_eq_some, Option.some.injEq] at h
      exact .inr ⟨_, _, _, _, _, _, rfl, h.2.symm⟩
  | wrapEth recipient amount => exact .inr ⟨_, _, _, _, _, _, rfl, hsell h⟩
  | unwrapWeth recipient least =>
      have h := hsell h
      rw [resolve_wholeBalance] at h
      exact .inr ⟨_, _, _, _, _, _, rfl, h⟩
  | sweep token recipient least =>
      have h := hsell h
      rw [resolve_wholeBalance] at h
      exact .inr ⟨_, _, _, _, _, _, rfl, h⟩
  | swap side path recipient exact bound =>
      obtain ⟨⟨a, b⟩, hends, h⟩ := Option.bind_eq_some_iff.mp h
      cases side with
      | exactInput => exact .inr ⟨_, _, _, recipient, b, _, by simp [payment?, hends], hsell h⟩
      | exactOutput =>
          obtain ⟨-, rfl⟩ := buy_eq_some.mp h
          rw [exchange, credit_zero]
          exact .inr ⟨_, _, _, recipient, b, _, by simp [payment?, hends], rfl⟩
  | erc4626Wrap wrapper underlying recipient amount least =>
      exact .inr ⟨_, _, _, _, _, _, rfl, hsell h⟩
  | erc4626Unwrap wrapper recipient amount least =>
      obtain ⟨u, hu, h⟩ := Option.bind_eq_some_iff.mp h
      exact .inr ⟨_, _, _, recipient, u, _, by simp [payment?, hu], hsell h⟩
  | boostedSwapExactOut | executeSubPlan => cases h

lemma balance_le_receipt (h : l.perform v answer c = some l') :
    l'.balance v.router token ≤ l.balance v.router token + l.receipt v answer token c := by
  rcases perform_eq_some h with ⟨-, rfl⟩ | ⟨payer, sold, spent, recipient, b, n, hpaid, rfl⟩
  · exact Nat.le_add_right _ _
  · have hdebit : (l.debit payer sold spent).balance v.router token ≤ l.balance v.router token := by
      rw [balance_debit]
      split_ifs <;> omega
    simp only [receipt, hpaid, balance_credit, eq_comm (a := v.holder recipient), eq_comm (a := b)]
    split_ifs <;> omega

/-- What the router has more of a token after a run, it has received in it. -/
lemma balance_le_received (h : l.run v m i cs = some l') :
    l'.balance v.router token ≤ l.balance v.router token + l.received v m token i cs := by
  induction cs generalizing l i with
  | nil =>
      obtain rfl := Option.some.inj h
      exact Nat.le_add_right _ _
  | cons c cs ih =>
      rw [run_cons, Option.bind_eq_some_iff] at h
      obtain ⟨l₁, hperform, hrun⟩ := h
      have hstep : _ ≤ _ + l.receipt v (m i c) token c := balance_le_receipt hperform
      have hrest := ih hrun
      rw [received, hperform, Option.map_some, Option.getD_some]
      omega

end Ledger

/-! ### Routes -/

/-- **A route with a fixed output pays the router what the encoder counts for it,** if it pays the
router. -/
lemma Route.le_received {v : Venue} {m : Market} {l l' : Ledger} {r : Route} {t : RouteTerms}
    {cs : List Command} {least : Amount} {i : Nat} (ht : t.tradeType = .exactOutput)
    (h : r.encode t = .ok (cs, least)) (hv : v.KnowsVaults r)
    (hholds : l.HoldsOnly v r.input.address r.output.address)
    (hpayee : v.holder t.recipient = v.router) (hrun : l.run v m i cs = some l') :
    least.toNat ≤ l.received v m r.output.address i cs := by
  by_cases hends : r.input.address = r.output.address
  · -- The balance does not tell what comes in, as the same swap spends from it.
    cases r with
    | boosted r => exact absurd hends r.input_ne_output
    | pooled r =>
        obtain ⟨path, hpath, rfl, rfl⟩ := (PoolRoute.encode_exactOutput ht).mp h
        have hreceipt : l.receipt v (m i (.swap .exactOutput path t.recipient t.amountOut t.amountIn))
            r.output.address (.swap .exactOutput path t.recipient t.amountOut t.amountIn) =
              t.amountOut.toNat := by
          simp [Ledger.receipt, Ledger.payment?, SwapPath.ends_ofRoute hpath, hpayee]
        rw [Ledger.received]
        exact Nat.le_add_right_of_le (Nat.le_of_eq hreceipt.symm)
  · obtain ⟨spent, back, out, -, hout, -, rfl⟩ := Route.run_exactOutput ht h hv hholds hrun
    have hle : _ ≤ _ + l.received v m r.output.address i cs := Ledger.balance_le_received hrun
    rw [Ledger.balance_exchange, if_neg fun hh => hends hh.2.symm, if_pos ⟨hpayee.symm, rfl⟩] at hle
    omega

/-! ### Trades -/

namespace Trade

variable {v : Venue} {m : Market} {l l' : Ledger} {t : Trade} {o : SwapOptions}

/-- What the router holds of the output between two routes: at least what was counted for those
before, and what those to come may spend if the input is the same token. -/
def Covered (t : Trade) (o : SwapOptions) (v : Venue) (counted : Nat) (swaps : List TradeSwap)
    (l : Ledger) : Prop :=
  counted + (if t.input.address = t.output.address then budgets o swaps else 0) ≤
    l.balance v.router t.output.address

/-- A trade is covered as soon as the user has handed the input over. -/
lemma Covered.funded {maxIn : Amount} (ht : t.tradeType = .exactOutput)
    (hempty : ∀ token, l.balance v.router token = 0)
    (hmax : t.maximumIn o.slippage = .ok maxIn) :
    t.Covered o v 0 t.swaps (t.funded v l maxIn.toNat) := by
  rw [Covered, Nat.zero_add, funded_router hempty]
  by_cases hends : t.input.address = t.output.address
  · rw [if_pos hends, if_pos hends.symm]
    exact budgets_le ht hmax
  · rw [if_neg hends]
    exact Nat.zero_le _

/-- An exchange within the budget of its route keeps a trade covered: what it spends of the output
was set aside for it. -/
lemma Covered.exchange {s : TradeSwap} {swaps : List TradeSwap} {counted least spent back out : Nat}
    (h : t.Covered o v counted (s :: swaps) l) (hpayee : v.holder (t.payee o) = v.router)
    (hspent : spent ≤ o.slippage.raise s.inputAmount.toNat) (hout : least ≤ out) :
    t.Covered o v (counted + least) swaps
      (l.exchange v t.input.address t.output.address (t.payee o) spent back out) := by
  rw [Covered, budgets_cons] at h
  rw [Covered, Ledger.balance_exchange, if_pos (And.intro hpayee.symm rfl)]
  by_cases hends : t.input.address = t.output.address
  · rw [if_pos hends] at h ⊢
    rw [if_pos ⟨rfl, hends.symm⟩]
    omega
  · rw [if_neg hends] at h ⊢
    rw [if_neg fun hh => hends hh.2.symm]
    omega

/-- A block of a trade pays the router what is counted for it. -/
lemma Block.le_received {s : TradeSwap} {b : List Command × Amount} {i : Nat} (h : t.Block o s b)
    (ht : t.tradeType = .exactOutput) (hosts : v.Hosts t) (hs : s ∈ t.swaps)
    (hpayee : v.holder (t.payee o) = v.router)
    (hholds : l.HoldsOnly v t.input.address t.output.address) (hrun : l.run v m i b.1 = some l') :
    b.2.toNat ≤ l.received v m t.output.address i b.1 := by
  obtain ⟨terms, hterms, hencode⟩ := h
  obtain ⟨htype, hto⟩ := terms_tradeType hterms
  rw [← t.input_address hs, ← t.output_address hs] at hholds
  rw [← t.output_address hs]
  exact Route.le_received (htype.trans ht) hencode (hosts.vaults s hs) hholds (hto ▸ hpayee) hrun

/-- **Routes that run through in a row pay the router what is counted for them,** and each of them
does. -/
theorem run_blocks (ht : t.tradeType = .exactOutput) (hosts : v.Hosts t)
    (hpayee : v.holder (t.payee o) = v.router) (hlt : budgets o t.swaps < 2 ^ 255)
    {swaps : List TradeSwap} {blocks : List (List Command × Amount)} {counted i : Nat}
    (hswaps : ∀ s ∈ swaps, s ∈ t.swaps) (hblocks : List.Forall₂ (t.Block o) swaps blocks)
    (hholds : l.HoldsOnly v t.input.address t.output.address)
    (hcovered : t.Covered o v counted swaps l)
    (hrun : l.run v m i (blocks.flatMap Prod.fst) = some l') :
    t.Covered o v (counted + (blocks.map fun b => b.2.toNat).sum) [] l' ∧
      ∀ before b after, blocks = before ++ b :: after →
        ∃ l₀, l.run v m i (before.flatMap Prod.fst) = some l₀ ∧
          b.2.toNat ≤
            l₀.received v m t.output.address (i + (before.flatMap Prod.fst).length) b.1 := by
  induction hblocks generalizing l counted i with
  | nil =>
      obtain rfl := Option.some.inj hrun
      exact ⟨hcovered, fun before b after h => absurd h (by simp)⟩
  | @cons s first swaps blocks hblock hblocks ih =>
      rw [List.flatMap_cons, Ledger.run_append, Option.bind_eq_some_iff] at hrun
      obtain ⟨l₁, hrun, hrun'⟩ := hrun
      have hs := hswaps s List.mem_cons_self
      have hreceived := hblock.le_received ht hosts hs hpayee hholds hrun
      obtain ⟨terms, hterms, hencode⟩ := hblock
      obtain ⟨spent, back, out, -, -, hbounds, rfl⟩ := run_route hosts hs hterms hencode hholds hrun
      obtain ⟨hout, hspent⟩ := hbounds ht
      have hbudget := hspent (Nat.lt_of_le_of_lt (raise_le_budgets hs) hlt)
      obtain ⟨hend, heach⟩ := ih (fun s hs => hswaps s (List.mem_cons_of_mem _ hs))
        (hholds.exchange _ _ _ _) (hcovered.exchange hpayee hbudget hout) hrun'
      refine ⟨by rwa [List.map_cons, List.sum_cons, ← Nat.add_assoc], ?_⟩
      intro before b after hsplit
      rcases before with _ | ⟨b₁, before⟩
      · obtain ⟨rfl, -⟩ := List.cons.inj hsplit
        exact ⟨l, rfl, hreceived⟩
      · obtain ⟨rfl, hblocks⟩ := List.cons.inj hsplit
        obtain ⟨l₀, hrun₀, hle⟩ := heach before b after hblocks
        refine ⟨l₀, ?_, ?_⟩
        · rw [List.flatMap_cons, Ledger.run_append, hrun, Option.bind_some, hrun₀]
        · rwa [List.flatMap_cons, List.length_append, ← Nat.add_assoc]

/-- The plan of a fixed output of the native currency: what takes the input in, a block for each
swap, the payout of all that is counted for them, and what returns the rest. -/
lemma commands_nativePayout {cs : List Command} {value : Amount} (ht : t.tradeType = .exactOutput)
    (hnative : t.output.isNative = true) (h : t.commands o = .ok (cs, value)) :
    ∃ maxIn intake blocks least rest, t.maximumIn o.slippage = .ok maxIn ∧
      t.intake maxIn = .ok intake ∧ List.Forall₂ (t.Block o) t.swaps blocks ∧
      least.toNat = (blocks.map fun b => b.2.toNat).sum ∧
      t.closing o least = .unwrapWeth o.recipient least :: rest ∧
      cs = o.permit.toList.map .permit2Permit ++ [intake] ++ blocks.flatMap Prod.fst ++
        t.closing o least ∧
      value = if t.input.isNative then maxIn else 0 := by
  obtain ⟨_, maxIn, intake, routes, least, -, hmax, hintake, hroutes, rfl, rfl⟩ := commands_eq_ok h
  obtain ⟨blocks, hblocks, rfl, htotal⟩ := exists_blocks hroutes
  rw [Amount.toNat_zero, Nat.zero_add] at htotal
  have hclosing : ∃ rest, t.closing o least = .unwrapWeth o.recipient least :: rest := by
    rw [closing, needsCustody, hnative, Bool.true_or, if_pos rfl, payout, if_pos hnative]
    exact ⟨_, rfl⟩
  obtain ⟨rest, hrest⟩ := hclosing
  refine ⟨maxIn, intake, blocks, least, rest, hmax, hintake, hblocks, htotal, hrest, ?_, rfl⟩
  simp only [ht, List.append_assoc, List.cons_append, List.nil_append]

/-- What runs behind the intake runs from what the user has handed over. -/
lemma execute_intake {maxIn : Amount} {intake : Command} {front cs : List Command}
    (hosts : v.Hosts t) (hintake : t.intake maxIn = .ok intake)
    (hfront : front = o.permit.toList.map .permit2Permit ++ [intake])
    (hnative : l.balance v.router Sentinel.native = 0) :
    l.execute v m (front ++ cs) (if t.input.isNative then maxIn else 0) =
      if maxIn.toNat ≤ l.balance v.user t.input.asset then
        (t.funded v l maxIn.toNat).run v m front.length cs
      else none := by
  rw [hfront, List.append_assoc, List.singleton_append, run_intake hosts hintake hnative,
    List.length_append, List.length_map, List.length_singleton]

/-- **The payout of the native currency asks for no more than the routes have paid in.** If the
input has come in and all routes have run through, the router holds what the payout asks for, which
is what the encoder counts for the routes, and for none more than it has paid the router; so the
plan runs through, whatever the market has given and taken. -/
theorem nativePayout_covered {p : Plan} {value maxIn : Amount} (ht : t.tradeType = .exactOutput)
    (hnative : t.output.isNative = true) (h : t.plan o = .ok (p, value)) (hosts : v.Hosts t)
    (hmax : t.maximumIn o.slippage = .ok maxIn) (hlt : maxIn.toNat < 2 ^ 255) :
    ∃ cs front intake blocks least rest,
      t.commands o = .ok (cs, value) ∧ p = .ofCommands cs ∧ p.RunsAs cs ∧
      cs = front ++ blocks.flatMap Prod.fst ++ .unwrapWeth o.recipient least :: rest ∧
      front = o.permit.toList.map .permit2Permit ++ [intake] ∧ t.intake maxIn = .ok intake ∧
      List.Forall₂ (t.Block o) t.swaps blocks ∧
      least.toNat = (blocks.map fun b => b.2.toNat).sum ∧
      ∀ m (l l' : Ledger), (∀ token, l.balance v.router token = 0) →
        l.execute v m (front ++ blocks.flatMap Prod.fst) value = some l' →
          least.toNat ≤ l'.balance v.router v.weth ∧
          (∃ l'', l.execute v m cs value = some l'') ∧
          ∀ before b after, blocks = before ++ b :: after → ∃ l₀,
            l.execute v m (front ++ before.flatMap Prod.fst) value = some l₀ ∧
            b.2.toNat ≤
              l₀.received v m v.weth (front ++ before.flatMap Prod.fst).length b.1 := by
  obtain ⟨cs, hcs, rfl⟩ := plan_eq_ok.mp h
  obtain ⟨maxIn', intake, blocks, least, rest, hmax', hintake, hblocks, htotal, hrest, hplan, rfl⟩ :=
    commands_nativePayout ht hnative hcs
  obtain rfl := Except.ok.inj (hmax.symm.trans hmax')
  obtain ⟨front, hfront⟩ : ∃ front, front = o.permit.toList.map .permit2Permit ++ [intake] :=
    ⟨_, rfl⟩
  rw [← hfront] at hplan
  refine ⟨cs, front, intake, blocks, least, rest, hcs, rfl, runsAs_commands hcs, hrest ▸ hplan,
    hfront, hintake, hblocks, htotal, fun m l l' hempty hrun => ?_⟩
  have hexecute (cs : List Command) : l.execute v m (front ++ cs) _ = _ :=
    execute_intake hosts hintake hfront (hempty Sentinel.native)
  have hroutes := hrun
  rw [hexecute, Option.ite_none_right_eq_some] at hroutes
  obtain ⟨hfunds, hroutes⟩ := hroutes
  have hcustody : t.needsCustody = true := by rw [needsCustody, hnative, Bool.true_or]
  obtain ⟨hend, heach⟩ := run_blocks ht hosts (holder_payee_of_custody hcustody)
    (Nat.lt_of_le_of_lt (budgets_le ht hmax) hlt) (fun _ hs => hs) hblocks
    (funded_holdsOnly hempty maxIn.toNat) (.funded ht hempty hmax) hroutes
  have hheld : least.toNat ≤ l'.balance v.router t.output.address := by
    rw [Covered, Nat.zero_add, ← htotal] at hend
    exact Nat.le_trans (Nat.le_add_right _ _) hend
  refine ⟨hosts.output_weth hnative ▸ hheld, ⟨t.settled o v l', ?_⟩, fun before b after hsplit => ?_⟩
  · rw [hplan, Ledger.execute_append, hrun, Option.bind_some, run_closing hosts,
      if_pos fun _ => hheld]
  · obtain ⟨l₀, hrun₀, hle⟩ := heach before b after hsplit
    refine ⟨l₀, by rw [hexecute, if_pos hfunds, hrun₀], ?_⟩
    rwa [List.length_append, ← hosts.output_weth hnative]

end Trade

namespace Sample

/-- The two routes of the trade owe the payout a hundred, and where they run through it gets it. -/
theorem hundred_covered : ∃ cs front routes least rest value,
    (trade .exactOutput 60).plan options = .ok (.ofCommands cs, value) ∧
      cs = front ++ routes ++ .unwrapWeth options.recipient least :: rest ∧ least.toNat = 100 ∧
      (∃ m l', ledger.execute venue m (front ++ routes) value = some l') ∧
      ∀ m l', ledger.execute venue m (front ++ routes) value = some l' →
        100 ≤ l'.balance venue.router venue.weth ∧
          ∃ l'', ledger.execute venue m cs value = some l'' := by
  have hpaid : paid .exactOutput 60 (fun _ _ _ => 0) = some 100 := by decide +kernel
  obtain ⟨cs, value, l', hcs, hrun, -⟩ := exists_run hpaid
  have hplan := Trade.plan_eq_ok.mpr ⟨cs, hcs, rfl⟩
  have hmax : (trade .exactOutput 60).maximumIn options.slippage = .ok 753 :=
    eq_ok_of_toOption (by decide +kernel)
  obtain ⟨_, front, _, blocks, least, rest, hcs', -, -, hsplit, -, -, hblocks, hleast, hcovered⟩ :=
    Trade.nativePayout_covered rfl rfl hplan venue_hosts hmax (by decide)
  obtain rfl := (Prod.mk.inj (Except.ok.inj (hcs.symm.trans hcs'))).1
  have hdelivered : (trade .exactOutput 60).delivered options = 100 := by decide +kernel
  have hhundred : least.toNat = 100 := by
    rw [hleast, Trade.sum_of_blocks rfl hblocks]
    exact hdelivered
  rw [hsplit, Ledger.execute_append, Option.bind_eq_some_iff] at hrun
  obtain ⟨l₁, hrun, -⟩ := hrun
  refine ⟨cs, front, _, least, rest, value, hplan, hsplit, hhundred, ⟨_, l₁, hrun⟩,
    fun m l' hrun => ?_⟩
  obtain ⟨hheld, hruns, -⟩ := hcovered m ledger l' router_empty hrun
  exact ⟨hhundred ▸ hheld, hruns⟩

end Sample

end SwapPlan

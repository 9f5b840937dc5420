import SwapPlan.Proofs.Ledger.Route
import SwapPlan.Proofs.Calldata
import SwapPlan.Proofs.Encode.Held
import SwapPlan.Proofs.Encode.Trade

/-!
The plan of a trade on a ledger, around its routes. First the user hands the input over, the native
currency as the token that wraps it. In the end what the router still holds of the output, of the
input and of the native currency is paid out. A plan runs as the commands that it was written from,
so that these stand for it.
-/

namespace SwapPlan

/-! ### Plans as they are read -/

/-- The plan runs as `cs`: whatever it runs among, reading its entries and running what they hold
is running `cs`, as long as the length of every input fits a word. -/
def Plan.RunsAs (p : Plan) (cs : List Command) : Prop :=
  (∀ input ∈ p.inputs, input.length < 2 ^ 256) → ∀ (v : Venue) (l : Ledger) (m : Market)
    (value : Amount), l.executePlan v m p value = l.execute v m cs value

lemma Plan.runsAs_ofCommands {cs : List Command} (hcapped : ∀ c ∈ cs, c.capped = c) :
    (ofCommands cs).RunsAs cs := by
  intro hlen v l m value
  have hread : (ofCommands cs).entries.mapM Entry.decode = .ok cs :=
    mapM_eq_ok.mpr ((decode_entries hcapped hlen).imp fun _ _ h => h.1)
  rw [Ledger.executePlan, hread]
  rfl

/-- **The plan of a trade runs as the commands of the trade.** -/
theorem Trade.runsAs_commands {t : Trade} {o : SwapOptions} {cs : List Command} {value : Amount}
    (h : t.commands o = .ok (cs, value)) : (Plan.ofCommands cs).RunsAs cs :=
  Plan.runsAs_ofCommands (capped_of_commands h)

/-! ### Currencies on a ledger -/

/-- The token under which a ledger keeps a currency. -/
def Currency.asset (c : Currency) : Address :=
  if c.isNative then Sentinel.native else c.address

/-- A venue that takes a trade's tokens for what the trade does: native currencies wrap to its
token, no token is at the address that stands for them, and vaults hold their underlying. -/
structure Venue.Hosts (v : Venue) (t : Trade) : Prop where
  wraps : ∀ s ∈ t.swaps, ∀ c ∈ s.route.path, c.isNative = true → c.address = v.weth
  nonzero : ∀ s ∈ t.swaps, ∀ c ∈ s.route.path, c.address ≠ Sentinel.native
  vaults : ∀ s ∈ t.swaps, v.KnowsVaults s.route

lemma Route.input_mem (r : Route) : r.input ∈ r.path := by
  cases r with
  | pooled r => exact List.head_mem r.path_ne_nil
  | boosted r => exact List.head_mem r.path_ne_nil

lemma Route.output_mem (r : Route) : r.output ∈ r.path := by
  cases r with
  | pooled r => exact List.getLast_mem r.path_ne_nil
  | boosted r => exact List.getLast_mem r.path_ne_nil

namespace Venue.Hosts

variable {v : Venue} {t : Trade} (hosts : v.Hosts t)

include hosts

lemma input_weth (h : t.input.isNative = true) : t.input.address = v.weth :=
  hosts.wraps t.first List.mem_cons_self _ (Route.input_mem _) h

lemma output_weth (h : t.output.isNative = true) : t.output.address = v.weth :=
  hosts.wraps t.first List.mem_cons_self _ (Route.output_mem _) h

lemma input_ne : t.input.address ≠ Sentinel.native :=
  hosts.nonzero t.first List.mem_cons_self _ (Route.input_mem _)

lemma output_ne : t.output.address ≠ Sentinel.native :=
  hosts.nonzero t.first List.mem_cons_self _ (Route.output_mem _)

end Venue.Hosts

namespace Ledger

variable {v : Venue} {l : Ledger} {m : Market} {i : Nat}

/-- The router pays its whole balance of `a` out, as `a'`. -/
def release (v : Venue) (l : Ledger) (a a' recipient : Address) : Ledger :=
  l.exchange v a a' recipient (l.balance v.router a) 0 (l.balance v.router a)

lemma sell_whole (a a' recipient : Address) (least : Amount) :
    l.sell v a a' recipient Sentinel.wholeBalance least id =
      if least.toNat ≤ l.balance v.router a then some (l.release v a a' recipient) else none := by
  simp only [sell, release, exchange, resolve_wholeBalance, id_eq, Nat.le_refl, true_and,
    credit_zero]

lemma perform_payout {c : Currency} (hweth : c.isNative = true → c.address = v.weth)
    (answer : Nat → Nat) (recipient : Address) (least : Amount) :
    l.perform v answer (Trade.payout c recipient least) =
      if least.toNat ≤ l.balance v.router c.address then
        some (l.release v c.address c.asset recipient)
      else none := by
  cases h : c.isNative with
  | true => simp only [Trade.payout, h, if_true, perform, sell_whole, Currency.asset, hweth h]
  | false =>
      simp only [Trade.payout, h, Bool.false_eq_true, if_false, perform, sell_whole,
        Currency.asset]

lemma balance_release (a a' recipient h t : Address) :
    (l.release v a a' recipient).balance h t =
      (if h = v.router ∧ t = a then 0 else l.balance h t) +
        if h = v.holder recipient ∧ t = a' then l.balance v.router a else 0 := by
  simp only [release, exchange, credit_zero, balance_credit, balance_debit]
  by_cases hat : h = v.router ∧ t = a
  · obtain ⟨rfl, rfl⟩ := hat
    split_ifs <;> omega
  · simp only [hat, if_false]
    split_ifs <;> omega

/-- What the router pays out of a token, and does not get itself, it no longer has. -/
lemma release_router {a a' recipient t : Address} (h : t = a ∨ l.balance v.router t = 0)
    (hself : v.holder recipient = v.router → t = a' → l.balance v.router a = 0) :
    (l.release v a a' recipient).balance v.router t = 0 := by
  rw [balance_release]
  have hkept : (if v.router = v.router ∧ t = a then 0 else l.balance v.router t) = 0 := by
    split_ifs with ht
    · rfl
    · exact h.resolve_left fun heq => ht ⟨rfl, heq⟩
  have hgain : (if v.router = v.holder recipient ∧ t = a' then l.balance v.router a else 0) = 0 := by
    split_ifs with ht
    · exact hself ht.1.symm ht.2
    · rfl
  rw [hkept, hgain]

lemma le_release {a a' recipient h : Address} (hr : h ≠ v.router) (t : Address) :
    l.balance h t ≤ (l.release v a a' recipient).balance h t := by
  rw [balance_release, if_neg fun hh => hr hh.1]
  exact Nat.le_add_right _ _

lemma release_of_ne {a a' recipient h t : Address} (hr : h ≠ v.router)
    (hne : ¬ (h = v.holder recipient ∧ t = a') ∨ l.balance v.router a = 0) :
    (l.release v a a' recipient).balance h t = l.balance h t := by
  rw [balance_release, if_neg fun hh => hr hh.1]
  split_ifs with hh
  · rw [hne.resolve_left fun hn => hn hh, Nat.add_zero]
  · rfl

/-- Permits move nothing. -/
lemma run_permits (ps : List Permit) (cs : List Command) :
    l.run v m i (ps.map .permit2Permit ++ cs) = l.run v m (i + ps.length) cs := by
  induction ps generalizing i with
  | nil => rfl
  | cons p ps ih =>
      rw [List.map_cons, List.cons_append, run_cons, List.length_cons]
      simp only [perform, Option.bind_some, ih]
      rw [Nat.add_assoc, Nat.add_comm 1]

end Ledger

namespace Trade

variable {v : Venue} {m : Market} {l : Ledger} {t : Trade} {o : SwapOptions} {i : Nat}
  {cs : List Command} {value : Amount}

/-- The user has handed an amount of the input over to the router. -/
def funded (t : Trade) (v : Venue) (l : Ledger) (n : Nat) : Ledger :=
  (l.debit v.user t.input.asset n).credit v.router t.input.address n

/-- The router has paid out all that it held of the output. -/
def paidOut (t : Trade) (o : SwapOptions) (v : Venue) (l : Ledger) : Ledger :=
  if t.needsCustody then l.release v t.output.address t.output.asset o.recipient else l

/-- The router has returned all that it held of the input. -/
def refunded (t : Trade) (o : SwapOptions) (v : Venue) (l : Ledger) : Ledger :=
  if t.tradeType = .exactOutput then l.release v t.input.address t.input.asset o.recipient else l

/-- The router has sent away all that it held of the native currency. -/
def swept (o : SwapOptions) (v : Venue) (l : Ledger) : Ledger :=
  if o.safeMode then l.release v Sentinel.native Sentinel.native o.recipient else l

def settled (t : Trade) (o : SwapOptions) (v : Venue) (l : Ledger) : Ledger :=
  swept o v (t.refunded o v (t.paidOut o v l))

lemma run_intake {maxIn : Amount} {c : Command} (hosts : v.Hosts t)
    (hc : t.intake maxIn = .ok c) (hnative : l.balance v.router Sentinel.native = 0) :
    l.execute v m (o.permit.toList.map .permit2Permit ++ c :: cs)
        (if t.input.isNative then maxIn else 0) =
      if maxIn.toNat ≤ l.balance v.user t.input.asset then
        (t.funded v l maxIn.toNat).run v m (o.permit.toList.length + 1) cs
      else none := by
  have hrun : ∀ l' : Ledger, l'.run v m 0 (o.permit.toList.map .permit2Permit ++ c :: cs) =
      (l'.perform v (m o.permit.toList.length c) c).bind
        (Ledger.run v m (o.permit.toList.length + 1) cs) := by
    intro l'
    rw [Ledger.run_permits, Ledger.run_cons, Nat.zero_add]
  rcases intake_eq_ok hc with ⟨hin, rfl⟩ | ⟨hin, amount, hamount, rfl⟩
  · simp only [Ledger.execute, hin, if_true, Ledger.pull, Currency.asset, Venue.holder_router]
    split_ifs with hle
    · have hzero : (l.debit v.user Sentinel.native maxIn.toNat).balance v.router
          Sentinel.native = 0 := by
        rw [Ledger.balance_debit_of_ne _ fun h => v.user_ne_router h.1.symm, hnative]
      have hresolve : ((l.debit v.user Sentinel.native maxIn.toNat).credit v.router
          Sentinel.native maxIn.toNat).resolve v Sentinel.native maxIn = maxIn.toNat := by
        rw [Ledger.resolve, Ledger.balance_credit_self, hzero, Nat.zero_add, ite_self]
      rw [Option.bind_some, hrun]
      simp only [Ledger.perform, Ledger.sell, hresolve, Ledger.balance_credit_self, hzero,
        Nat.zero_add, Nat.le_refl, Amount.toNat_zero, id_eq, Nat.zero_le, and_self, if_true,
        Option.bind_some, Ledger.debit_credit _ _ (Nat.le_refl _), Nat.sub_self,
        Ledger.credit_zero, Venue.holder_router, funded, hosts.input_weth hin, Currency.asset, hin]
    · rfl
  · have hzero : l.pull v Sentinel.native Sentinel.router (0 : Amount).toNat = some l := by
      simp only [Ledger.pull, Amount.toNat_zero, Nat.zero_le, if_true, Ledger.credit_zero,
        Option.some.injEq]
      ext h t
      simp [Ledger.balance_debit]
    rw [hin, if_neg Bool.false_ne_true, Ledger.execute, hzero, Option.bind_some, hrun]
    simp only [Ledger.perform, Ledger.pull, hamount, Currency.asset, hin, Bool.false_eq_true,
      if_false, Venue.holder_router, funded]
    split_ifs <;> rfl

lemma run_closing (hosts : v.Hosts t) (least : Amount) :
    l.run v m i (t.closing o least) =
      if t.needsCustody = true → least.toNat ≤ l.balance v.router t.output.address then
        some (t.settled o v l)
      else none := by
  have hoptional : ∀ (p : Prop) [Decidable p] (c : Command) (j : Nat) (l : Ledger),
      l.run v m j (if p then [c] else []) = if p then l.perform v (m j c) c else some l := by
    intro p _ c j l
    split_ifs
    · rw [Ledger.run_singleton]
    · rfl
  rw [closing, Ledger.run_append, hoptional, Ledger.perform_payout hosts.output_weth]
  have hrest : ∀ (j : Nat) (l : Ledger), l.run v m j
      ((if t.tradeType = .exactOutput then [payout t.input o.recipient 0] else []) ++
        if o.safeMode then [.sweep Sentinel.native o.recipient 0] else []) =
      some (swept o v (t.refunded o v l)) := by
    intro j l
    rw [Ledger.run_append, hoptional, Ledger.perform_payout hosts.input_weth, Amount.toNat_zero,
      if_pos (Nat.zero_le _), refunded, swept]
    cases t.tradeType <;> cases o.safeMode <;>
      simp [Ledger.run_singleton, Ledger.perform, Ledger.sell_whole]
  cases hcustody : t.needsCustody with
  | true =>
      simp only [if_true, true_imp_iff, settled, paidOut, hcustody]
      by_cases hle : least.toNat ≤ l.balance v.router t.output.address
      · rw [if_pos hle, if_pos hle, Option.bind_some, hrest]
      · rw [if_neg hle, if_neg hle, Option.bind_none]
  | false =>
      simp only [Bool.false_eq_true, if_false, false_imp_iff, if_true, settled, paidOut, hcustody,
        Option.bind_some, hrest]

/-- **The run of a plan is the run of its routes,** once the user has handed the input over; then
the router pays out all that it holds. -/
theorem execute_eq (h : t.commands o = .ok (cs, value)) (hosts : v.Hosts t) :
    ∃ minOut maxIn routes delivered, t.minimumOut o.slippage = .ok minOut ∧
      t.maximumIn o.slippage = .ok maxIn ∧
      t.routeCommands o 0 t.swaps = .ok (routes, delivered) ∧
      ∀ (m : Market) (l : Ledger), l.balance v.router Sentinel.native = 0 →
        l.execute v m cs value =
          if maxIn.toNat ≤ l.balance v.user t.input.asset then
            ((t.funded v l maxIn.toNat).run v m (o.permit.toList.length + 1) routes).bind
              fun l' =>
                if t.needsCustody = true → (match t.tradeType with
                    | .exactInput => minOut
                    | .exactOutput => delivered).toNat ≤ l'.balance v.router t.output.address then
                  some (t.settled o v l')
                else none
          else none := by
  obtain ⟨minOut, maxIn, intake, routes, delivered, hmin, hmax, hintake, hroutes, rfl, rfl⟩ :=
    commands_eq_ok h
  refine ⟨minOut, maxIn, routes, delivered, hmin, hmax, hroutes, fun m l hnative => ?_⟩
  rw [run_intake hosts hintake hnative, Ledger.run_append]
  split_ifs
  · congr 1
    funext l'
    exact run_closing hosts _
  · rfl

end Trade

end SwapPlan

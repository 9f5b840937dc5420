import SwapPlan.Encode.Trade
import SwapPlan.Proofs.Amount
import Mathlib.Tactic.Lemma
import Mathlib.Tactic.SplitIfs

/-!
A ledger that runs plans. Balances are natural numbers, the native currency is held under its
sentinel, and every bound that a command carries is enforced: a run whose market does not meet
one, or that spends a balance it does not have, has no outcome.

What pools and vaults give or take is left to a market, which may answer each command of a plan
as it likes. All that the router does with its own balance is of two kinds: it sells an amount of
one token for whatever the market gives, or it buys an amount for whatever the market takes.
Transfers and conversions of the native currency are sales one for one.
-/

namespace SwapPlan

/-- The accounts and contracts that a plan runs among. -/
structure Venue where
  user : Address
  router : Address
  /-- The token that stands for the native currency. -/
  weth : Address
  /-- The token that the vault behind a share token holds. -/
  underlying : Address → Option Address
  user_ne_router : user ≠ router

/-- The account that a command's recipient names. -/
def Venue.holder (v : Venue) (recipient : Address) : Address :=
  if recipient = Sentinel.router then v.router
  else if recipient = Sentinel.caller then v.user
  else recipient

/-- What a market answers: to the command at a place of a plan, and to the amount that it spends or
buys, the amount that it gives or takes. -/
abbrev Market := (place : Nat) → Command → (amount : Nat) → Nat

/-- The first and the last token of a path in the direction of the swap. Packed paths are written
from the output when the output is fixed. -/
def SwapPath.ends (side : TradeType) : SwapPath → Option (Address × Address)
  | .addresses tokens => do return (← tokens.head?, ← tokens.getLast?)
  | .fees path | .deployers path =>
    if path.length < 20 then none
    else
      let first := Address.ofLeading path
      let last := Address.ofLeading (path.drop (path.length - 20))
      match side with
      | .exactInput => some (first, last)
      | .exactOutput => some (last, first)

/-- What every holder has of every token. -/
@[ext]
structure Ledger where
  balance : (holder token : Address) → Nat

namespace Ledger

variable (v : Venue) (l : Ledger)

def credit (holder token : Address) (n : Nat) : Ledger where
  balance h t := if h = holder ∧ t = token then l.balance h t + n else l.balance h t

def debit (holder token : Address) (n : Nat) : Ledger where
  balance h t := if h = holder ∧ t = token then l.balance h t - n else l.balance h t

/-- The amount that a command names, where the sentinel names the router's whole balance. -/
def resolve (token : Address) (amount : Amount) : Nat :=
  if amount = Sentinel.wholeBalance then l.balance v.router token else amount.toNat

/-- Sells `amount` of the router's `a` for `b`, of which the market gives at least `least`. -/
def sell (a b recipient : Address) (amount least : Amount) (yield : Nat → Nat) : Option Ledger :=
  let spent := l.resolve v a amount
  if spent ≤ l.balance v.router a ∧ least.toNat ≤ yield spent then
    some ((l.debit v.router a spent).credit (v.holder recipient) b (yield spent))
  else none

/-- Buys `amount` of `b` for the router's `a`, of which the market takes at most `most`. -/
def buy (a b recipient : Address) (amount most : Amount) (price : Nat → Nat) : Option Ledger :=
  let paid := price amount.toNat
  if paid ≤ l.resolve v a most ∧ paid ≤ l.balance v.router a then
    some ((l.debit v.router a paid).credit (v.holder recipient) b amount.toNat)
  else none

/-- The router has spent an amount of `a`, got some of it back, and paid out an amount of `b`. -/
def exchange (a b recipient : Address) (spent back out : Nat) : Ledger :=
  ((l.debit v.router a spent).credit v.router a back).credit (v.holder recipient) b out

/-- The user hands over an amount of a token. -/
def pull (token recipient : Address) (n : Nat) : Option Ledger :=
  if n ≤ l.balance v.user token then
    some ((l.debit v.user token n).credit (v.holder recipient) token n)
  else none

/-- The ledger after one command, to which the market gives `answer`. -/
def perform (answer : Nat → Nat) : Command → Option Ledger
  | .permit2Permit _ => some l
  | .permit2TransferFrom token recipient amount => l.pull v token recipient amount.toNat
  | .wrapEth recipient amount => l.sell v Sentinel.native v.weth recipient amount 0 id
  | .unwrapWeth recipient least =>
    l.sell v v.weth Sentinel.native recipient Sentinel.wholeBalance least id
  | .sweep token recipient least =>
    l.sell v token token recipient Sentinel.wholeBalance least id
  | .swap side path recipient exact bound => do
    let (a, b) ← path.ends side
    match side with
    | .exactInput => l.sell v a b recipient exact bound answer
    | .exactOutput => l.buy v a b recipient exact bound answer
  | .erc4626Wrap wrapper underlying recipient amount least =>
    l.sell v underlying wrapper recipient amount least answer
  | .erc4626Unwrap wrapper recipient amount least => do
    l.sell v wrapper (← v.underlying wrapper) recipient amount least answer
  | .boostedSwapExactOut .. | .executeSubPlan .. => none

/-- The ledger after commands that stand in their plan from a place on. -/
def run (m : Market) : (place : Nat) → List Command → Ledger → Option Ledger
  | _, [], l => some l
  | i, c :: cs, l => (l.perform v (m i c) c).bind (run m (i + 1) cs)

/-- The ledger after all commands of a plan and the native amount that the user sends with it. -/
def execute (m : Market) (cs : List Command) (value : Amount) : Option Ledger :=
  (l.pull v Sentinel.native Sentinel.router value.toNat).bind (run v m 0 cs)

/-- The ledger after a plan whose entries are read as the commands that their inputs hold. -/
def executePlan (m : Market) (p : Plan) (value : Amount) : Option Ledger :=
  (p.entries.mapM Plan.Entry.decode).toOption.bind fun cs => l.execute v m cs value

/-! ### Balances -/

variable {v l}

lemma balance_credit (holder token h t : Address) (n : Nat) :
    (l.credit holder token n).balance h t =
      if h = holder ∧ t = token then l.balance h t + n else l.balance h t := rfl

lemma balance_debit (holder token h t : Address) (n : Nat) :
    (l.debit holder token n).balance h t =
      if h = holder ∧ t = token then l.balance h t - n else l.balance h t := rfl

lemma balance_credit_of_ne {holder token h t : Address} (n : Nat)
    (hne : ¬ (h = holder ∧ t = token)) :
    (l.credit holder token n).balance h t = l.balance h t := if_neg hne

lemma balance_debit_of_ne {holder token h t : Address} (n : Nat)
    (hne : ¬ (h = holder ∧ t = token)) :
    (l.debit holder token n).balance h t = l.balance h t := if_neg hne

@[simp] lemma balance_credit_self (holder token : Address) (n : Nat) :
    (l.credit holder token n).balance holder token = l.balance holder token + n :=
  if_pos ⟨rfl, rfl⟩

@[simp] lemma credit_zero (holder token : Address) : l.credit holder token 0 = l := by
  ext h t
  simp [balance_credit]

lemma credit_comm (holder token holder' token' : Address) (n n' : Nat) :
    (l.credit holder token n).credit holder' token' n' =
      (l.credit holder' token' n').credit holder token n := by
  ext h t
  simp only [balance_credit]
  split_ifs <;> omega

/-- Part of what was just credited goes again. -/
lemma debit_credit {n n' : Nat} (holder token : Address) (h : n' ≤ n) :
    (l.credit holder token n).debit holder token n' = l.credit holder token (n - n') := by
  ext h t
  simp only [balance_credit, balance_debit]
  split_ifs <;> omega

/-- Part of what was just debited comes back. -/
lemma credit_debit {n n' : Nat} {holder token : Address} (hn : n ≤ l.balance holder token)
    (h : n' ≤ n) :
    (l.debit holder token n).credit holder token n' = l.debit holder token (n - n') := by
  ext h t
  simp only [balance_credit, balance_debit]
  split_ifs with hht
  · obtain ⟨rfl, rfl⟩ := hht
    omega
  · rfl

/-! ### Sales and purchases -/

@[simp] lemma resolve_wholeBalance (token : Address) :
    l.resolve v token Sentinel.wholeBalance = l.balance v.router token := if_pos rfl

lemma resolve_of_lt (token : Address) {amount : Amount} (h : amount.toNat < 2 ^ 255) :
    l.resolve v token amount = amount.toNat := by
  refine if_neg ?_
  rintro rfl
  exact absurd h (by decide)

lemma sell_eq_some {a b recipient : Address} {amount least : Amount} {yield : Nat → Nat}
    {l' : Ledger} :
    l.sell v a b recipient amount least yield = some l' ↔
      (l.resolve v a amount ≤ l.balance v.router a ∧
        least.toNat ≤ yield (l.resolve v a amount)) ∧
      l.exchange v a b recipient (l.resolve v a amount) 0 (yield (l.resolve v a amount)) = l' := by
  simp only [sell, exchange, credit_zero]
  split_ifs with h <;> simp [h]

lemma buy_eq_some {a b recipient : Address} {amount most : Amount} {price : Nat → Nat}
    {l' : Ledger} :
    l.buy v a b recipient amount most price = some l' ↔
      (price amount.toNat ≤ l.resolve v a most ∧ price amount.toNat ≤ l.balance v.router a) ∧
      l.exchange v a b recipient (price amount.toNat) 0 amount.toNat = l' := by
  simp only [buy, exchange, credit_zero]
  split_ifs with h <;> simp [h]

/-- Selling the whole of a token that the router has just received undoes the receipt. -/
lemma sell_credit {a : Address} (h : l.balance v.router a = 0) (b recipient : Address) (x : Nat)
    (least : Amount) (yield : Nat → Nat) :
    (l.credit v.router a x).sell v a b recipient Sentinel.wholeBalance least yield =
      if least.toNat ≤ yield x then some (l.credit (v.holder recipient) b (yield x)) else none := by
  have hx : (l.credit v.router a x).balance v.router a = x := by
    rw [balance_credit_self, h, Nat.zero_add]
  simp only [sell, resolve_wholeBalance, hx, debit_credit _ _ (Nat.le_refl x), Nat.sub_self,
    credit_zero, Nat.le_refl, true_and]

/-- Buying for at most what the router has just received leaves a part of the receipt. -/
lemma buy_credit {a : Address} (h : l.balance v.router a = 0) (b recipient : Address) (x : Nat)
    (amount : Amount) (price : Nat → Nat) :
    (l.credit v.router a x).buy v a b recipient amount Sentinel.wholeBalance price =
      if price amount.toNat ≤ x then
        some ((l.credit v.router a (x - price amount.toNat)).credit (v.holder recipient) b
          amount.toNat)
      else none := by
  have hx : (l.credit v.router a x).balance v.router a = x := by
    rw [balance_credit_self, h, Nat.zero_add]
  simp only [buy, resolve_wholeBalance, hx, and_self]
  split_ifs with hle
  · rw [debit_credit _ _ hle]
  · rfl

/-! ### Runs -/

@[simp] lemma run_nil (m : Market) (i : Nat) : run v m i [] l = some l := rfl

lemma run_cons (m : Market) (i : Nat) (c : Command) (cs : List Command) :
    run v m i (c :: cs) l = (l.perform v (m i c) c).bind (run v m (i + 1) cs) := rfl

lemma run_singleton (m : Market) (i : Nat) (c : Command) :
    run v m i [c] = fun l => l.perform v (m i c) c := by
  funext l
  exact Option.bind_fun_some _

lemma run_append (m : Market) (i : Nat) (cs ds : List Command) :
    run v m i (cs ++ ds) l = (run v m i cs l).bind (run v m (i + cs.length) ds) := by
  induction cs generalizing i l with
  | nil => rfl
  | cons c cs ih =>
      rw [List.cons_append, run_cons, run_cons, Option.bind_assoc]
      congr 1
      funext l'
      rw [ih, List.length_cons, Nat.add_assoc, Nat.add_comm 1]

lemma execute_append (m : Market) (cs ds : List Command) (value : Amount) :
    execute v l m (cs ++ ds) value = (execute v l m cs value).bind (run v m cs.length ds) := by
  rw [execute, execute, Option.bind_assoc]
  congr 1
  funext l'
  rw [run_append, Nat.zero_add]

end Ledger

namespace Venue

variable {v : Venue}

@[simp] lemma holder_router : v.holder Sentinel.router = v.router := if_pos rfl

end Venue

end SwapPlan

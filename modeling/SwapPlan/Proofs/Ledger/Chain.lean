import SwapPlan.Proofs.Ledger.Basic
import SwapPlan.Proofs.Path.Ends
import SwapPlan.Proofs.Encode.Boosted

/-!
Steps that pass the router's balance on. The first step of a chain spends a given amount and every
later one the whole balance of its token, which is what the step before has put out if the router
had none of it. So a chain moves nothing but its first and its last token, and only the bound of
its last step can fail it.
-/

namespace SwapPlan

/-- What comes out of commands at a place of a plan of which each spends what the one before has
put out. -/
def Market.passed (m : Market) : (place : Nat) → List Command → (amount : Nat) → Nat
  | _, [], n => n
  | i, c :: cs, n => passed m (i + 1) cs (m i c n)

/-- The vault of a venue behind a share token holds the token that the trade takes it to hold. -/
def Venue.Knows (v : Venue) (w : Vault) : Prop :=
  v.underlying w.address = some w.underlying.address

namespace Step

variable {v : Venue} {l : Ledger} {side : TradeType} {s : Step} {payee : Address}
  {amount least : Amount} {c : Command} {answer : Nat → Nat}

/-- A vault step sells its token, and so does a swap of a fixed amount. -/
lemma perform_command (h : s.command side payee amount least = .ok c)
    (hside : side = .exactInput ∨ s.isSwap = false)
    (hv : ∀ w, s.vault? = some w → v.Knows w) :
    l.perform v answer c =
      l.sell v s.tokenIn.address s.tokenOut.address payee amount least answer := by
  cases s with
  | wrap w =>
      simp only [command, Except.ok.injEq] at h
      subst h
      rfl
  | unwrap w =>
      simp only [command, Except.ok.injEq] at h
      subst h
      have hw : v.underlying w.address = some w.underlying.address := hv w rfl
      simp only [Ledger.perform, hw]
      rfl
  | swap a b p =>
      obtain rfl : side = .exactInput := by simpa [isSwap] using hside
      simp only [command, bind_eq_ok, pure_eq_ok] at h
      obtain ⟨path, hpath, rfl⟩ := h
      simp only [Ledger.perform, SwapPath.ends_ofSwap hpath]
      rfl

/-- A swap for a fixed amount buys it. -/
lemma perform_swap {a b : Currency} {p : Pool} {most : Amount}
    (h : (Step.swap a b p).command .exactOutput payee amount most = .ok c) :
    l.perform v answer c = l.buy v a.address b.address payee amount most answer := by
  simp only [command, bind_eq_ok, pure_eq_ok] at h
  obtain ⟨path, hpath, rfl⟩ := h
  simp only [Ledger.perform, SwapPath.ends_ofSwap hpath]
  rfl

end Step

namespace BoostedRoute

open Step (Along)

variable {v : Venue} {m : Market} {l : Ledger} {payee a z : Address} {least amount : Amount}
  {mid : List Address} {s : Step} {steps : List Step} {cs : List Command}

/-- **A chain of steps sells its first token for its last.** The tokens between, of which the
router has none, come and go. -/
theorem run_chain (hcs : exactInputCommands payee least amount steps = .ok cs)
    (halong : Along (a :: mid ++ [z]) steps) (hnodup : (a :: mid).Nodup)
    (hv : ∀ s ∈ steps, ∀ w, s.vault? = some w → v.Knows w)
    (hempty : ∀ t ∈ mid, l.balance v.router t = 0) (i : Nat) :
    l.run v m i cs = l.sell v a z payee amount least (m.passed i cs) := by
  induction mid generalizing l a amount steps cs i with
  | nil =>
      cases halong with
      | @cons s _ _ _ _ hin hout hrest =>
          cases hrest
          obtain ⟨c, hc, rfl⟩ := exactInputCommands_singleton.mp hcs
          have hperform : l.perform v (m i c) c =
              l.sell v s.tokenIn.address s.tokenOut.address payee amount least (m i c) :=
            Step.perform_command hc (.inl rfl) (hv s (List.mem_singleton_self s))
          rw [Ledger.run_cons, hperform, hin, hout]
          exact Option.bind_fun_some _
  | cons b mid ih =>
      cases halong with
      | @cons s steps _ _ _ hin hout hrest =>
      have hne : steps ≠ [] := by
        rintro rfl
        simpa using hrest.length_eq
      obtain ⟨c, cs', hc, hcs', rfl⟩ := (exactInputCommands_cons hne).mp hcs
      obtain ⟨ha, hnodup⟩ := List.nodup_cons.mp hnodup
      have hperform : l.perform v (m i c) c =
          l.sell v s.tokenIn.address s.tokenOut.address Sentinel.router amount 0 (m i c) :=
        Step.perform_command hc (.inl rfl) (hv s List.mem_cons_self)
      have hb : l.balance v.router b = 0 := hempty b List.mem_cons_self
      have hab : b ≠ a := by rintro rfl; exact ha List.mem_cons_self
      rw [Ledger.run_cons, hperform, hin, hout]
      simp only [Ledger.sell, Venue.holder_router, Market.passed, Amount.toNat_zero, Nat.zero_le,
        and_true]
      generalize l.resolve v a amount = n
      by_cases hle : n ≤ l.balance v.router a
      · -- The router now has of `b` what the first step has put out, and the rest spends it.
        have hb' : (l.debit v.router a n).balance v.router b = 0 := by
          rw [Ledger.balance_debit_of_ne _ (by tauto), hb]
        have hempty' : ∀ t ∈ mid, ((l.debit v.router a n).credit v.router b (m i c n)).balance
            v.router t = 0 := by
          intro t ht
          have hta : t ≠ a := by rintro rfl; exact ha (List.mem_cons_of_mem _ ht)
          have htb : t ≠ b := by rintro rfl; exact (List.nodup_cons.mp hnodup).1 ht
          rw [Ledger.balance_credit_of_ne _ (by tauto), Ledger.balance_debit_of_ne _ (by tauto)]
          exact hempty t (List.mem_cons_of_mem _ ht)
        rw [if_pos hle, Option.bind_some,
          ih hcs' hrest hnodup (fun s hs => hv s (List.mem_cons_of_mem _ hs)) hempty' (i + 1),
          Ledger.sell_credit hb']
        simp only [hle, true_and]
      · simp only [hle, false_and, if_false, Option.bind_none]

end BoostedRoute

end SwapPlan

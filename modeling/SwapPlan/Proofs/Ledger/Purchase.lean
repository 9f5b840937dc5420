import SwapPlan.Proofs.Ledger.Chain

/-!
A boosted route with a fixed output on a ledger. The chain before the swap turns the budget into
the token that the swap spends, the swap buys its amount, the chain after it passes that on, and
the way back turns what was not spent into the input again.
-/

namespace SwapPlan.BoostedRoute

open Step (Along)

variable {v : Venue} {m : Market} {l : Ledger} {payee α β a b : Address} {least amount : Amount}
  {us ws : List Address} {steps : List Step} {cs : List Command} {i : Nat}

/-- What a route can spend of a token: the amount that it names, or less if the router has less. -/
def budget (v : Venue) (l : Ledger) (a : Address) (amount : Amount) : Nat :=
  min (l.resolve v a amount) (l.balance v.router a)

lemma budget_le (v : Venue) (l : Ledger) (a : Address) (amount : Amount) :
    budget v l a amount ≤ l.balance v.router a := Nat.min_le_right _ _

lemma budget_of_le (h : l.resolve v a amount ≤ l.balance v.router a) :
    budget v l a amount = l.resolve v a amount := Nat.min_eq_left h

/-- Tokens over which some steps lead begin with their first and end with their last. -/
lemma exists_mid (halong : Along (us ++ [α]) steps) (hne : steps ≠ [])
    (ha : (us ++ [α]).head? = some a) : ∃ mid, us = a :: mid := by
  rcases us with _ | ⟨u, us⟩
  · have := halong.length_eq
    have : steps.length = 0 := by simpa using this.symm
    exact absurd (List.eq_nil_of_length_eq_zero this) hne
  · obtain rfl : u = a := by simpa using ha
    exact ⟨us, rfl⟩

lemma eq_nil_of_along_nil (halong : Along (us ++ [α]) []) : us = [] := by
  have := halong.length_eq
  exact List.eq_nil_of_length_eq_zero (by simpa using this)

/-- The chain up to the swap and the swap itself. A swap without a chain before it buys from the
input; it leaves of its budget what it does not cost. -/
lemma run_purchase {p : Pool} {ca cb : Currency} {c : Command} {bought : Amount}
    (hcs : exactInputCommands Sentinel.router 0 amount steps = .ok cs)
    (hc : (Step.swap ca cb p).command .exactOutput payee bought
      (if steps = [] then amount else Sentinel.wholeBalance) = .ok c)
    (halong : Along (us ++ [ca.address]) steps) (hnodup : (us ++ [ca.address]).Nodup)
    (ha : (us ++ [ca.address]).head? = some a)
    (hv : ∀ s ∈ steps, ∀ w, s.vault? = some w → v.Knows w)
    (hempty : ∀ t ∈ us ++ [ca.address], t ≠ a → l.balance v.router t = 0) :
    l.run v m i (cs ++ [c]) =
      if (steps = [] ∨ l.resolve v a amount ≤ l.balance v.router a) ∧
          m (i + cs.length) c bought.toNat ≤ m.passed i cs (budget v l a amount) then
        some (((l.debit v.router a (budget v l a amount)).credit v.router ca.address
          (m.passed i cs (budget v l a amount) - m (i + cs.length) c bought.toNat)).credit
            (v.holder payee) cb.address bought.toNat)
      else none := by
  rw [Ledger.run_append, Ledger.run_singleton]
  have hswap : ∀ l' : Ledger, l'.perform v (m (i + cs.length) c) c = l'.buy v ca.address cb.address
      payee bought (if steps = [] then amount else Sentinel.wholeBalance)
        (m (i + cs.length) c) := fun l' => Step.perform_swap hc
  set price := m (i + cs.length) c bought.toNat with hprice
  by_cases hsteps : steps = []
  · subst hsteps
    obtain rfl := eq_nil_of_along_nil halong
    obtain rfl : ca.address = a := by simpa using ha
    obtain rfl : cs = [] := by simpa [exactInputCommands] using hcs.symm
    rw [Ledger.run_nil, Option.bind_some, hswap, if_pos rfl]
    have hiff : price ≤ l.resolve v ca.address amount ∧ price ≤ l.balance v.router ca.address ↔
        price ≤ budget v l ca.address amount := Nat.le_min.symm
    simp only [Ledger.buy, ← hprice, hiff, Market.passed, true_or, true_and]
    by_cases hle : price ≤ budget v l ca.address amount
    · rw [if_pos hle, if_pos hle, Ledger.credit_debit (budget_le _ _ _ _) (Nat.sub_le _ _),
        Nat.sub_sub_self hle]
    · rw [if_neg hle, if_neg hle]
  · obtain ⟨mid, rfl⟩ := exists_mid halong hsteps ha
    have hmem : ca.address ∈ a :: mid ++ [ca.address] := by simp
    have hnotin : a ∉ mid ++ [ca.address] := (List.nodup_cons.mp hnodup).1
    have hne : ca.address ≠ a := by
      rintro heq
      exact hnotin (by simp [heq])
    have hnodup' : (a :: mid).Nodup := (List.nodup_append.mp hnodup).1
    have hempty' : ∀ t ∈ mid, l.balance v.router t = 0 := by
      intro t ht
      refine hempty t (by simp [ht]) ?_
      rintro rfl
      exact hnotin (by simp [ht])
    rw [run_chain hcs halong hnodup' hv hempty', Ledger.sell]
    simp only [hsteps, false_or, Venue.holder_router, Amount.toNat_zero, Nat.zero_le,
      and_true]
    by_cases hle : l.resolve v a amount ≤ l.balance v.router a
    · have hzero : (l.debit v.router a (l.resolve v a amount)).balance v.router ca.address = 0 := by
        rw [Ledger.balance_debit_of_ne _ (by tauto)]
        exact hempty _ hmem hne
      rw [if_pos hle, Option.bind_some, hswap, if_neg hsteps, Ledger.buy_credit hzero,
        budget_of_le hle, ← hprice]
      simp only [hle, true_and]
    · simp only [hle, false_and, if_false, Option.bind_none]

/-- The chain that leads on from the swap. If there is none, the swap itself delivers. -/
lemma run_delivery {bought : Amount}
    (hcs : exactInputCommands payee least Sentinel.wholeBalance steps = .ok cs)
    (halong : Along (β :: ws) steps) (hnodup : (β :: ws).Nodup)
    (hb : (β :: ws).getLast? = some b)
    (hv : ∀ s ∈ steps, ∀ w, s.vault? = some w → v.Knows w)
    (hempty : ∀ t ∈ β :: ws, t ≠ b → l.balance v.router t = 0)
    (hleast : steps = [] → least = bought) :
    (l.credit (v.holder (if steps = [] then payee else Sentinel.router)) β bought.toNat).run
        v m i cs =
      if least.toNat ≤ m.passed i cs bought.toNat then
        some (l.credit (v.holder payee) b (m.passed i cs bought.toNat))
      else none := by
  by_cases hsteps : steps = []
  · subst hsteps
    cases halong
    obtain rfl : β = b := by simpa using hb
    obtain rfl : cs = [] := by simpa [exactInputCommands] using hcs.symm
    rw [Ledger.run_nil, Market.passed, hleast rfl, if_pos (Nat.le_refl _), if_pos rfl]
  · have hws : ws ≠ [] := by
      rintro rfl
      exact hsteps (List.eq_nil_of_length_eq_zero (by simpa using halong.length_eq.symm))
    obtain ⟨mid, rfl⟩ : ∃ mid, ws = mid ++ [b] := by
      refine ⟨ws.dropLast, ?_⟩
      have hlast : ws.getLast hws = b := by
        rw [List.getLast?_cons, List.getLast?_eq_some_getLast hws] at hb
        simpa using hb
      rw [← hlast, List.dropLast_append_getLast]
    rw [← List.cons_append] at halong hnodup
    have hne : ∀ t ∈ β :: mid, t ≠ b := by
      rintro t ht rfl
      exact (List.nodup_append.mp hnodup).2.2 t ht t List.mem_cons_self rfl
    have hβ : l.balance v.router β = 0 :=
      hempty β List.mem_cons_self (hne β List.mem_cons_self)
    have hnodup' := (List.nodup_append.mp hnodup).1
    have hempty' : ∀ t ∈ mid, (l.credit v.router β bought.toNat).balance v.router t = 0 := by
      intro t ht
      have htβ : t ≠ β := by
        rintro rfl
        exact (List.nodup_cons.mp hnodup').1 ht
      rw [Ledger.balance_credit_of_ne _ (by tauto)]
      exact hempty t (by simp [ht]) (hne t (List.mem_cons_of_mem _ ht))
    rw [if_neg hsteps, Venue.holder_router, run_chain hcs halong hnodup' hv hempty',
      Ledger.sell_credit hβ]

/-- The way back turns what is left of the token that the swap spends into the input. -/
lemma run_return {x : Nat}
    (hcs : exactInputCommands Sentinel.router 0 Sentinel.wholeBalance
      (steps.reverse.map Step.inverse) = .ok cs)
    (halong : Along (us ++ [α]) steps) (hnodup : (us ++ [α]).Nodup)
    (ha : (us ++ [α]).head? = some a) (hvault : ∀ s ∈ steps, s.isSwap = false)
    (hv : ∀ s ∈ steps, ∀ w, s.vault? = some w → v.Knows w)
    (hempty : ∀ t ∈ us ++ [α], t ≠ a → l.balance v.router t = 0) :
    (l.credit v.router α x).run v m i cs = some (l.credit v.router a (m.passed i cs x)) := by
  by_cases hsteps : steps = []
  · subst hsteps
    obtain rfl := eq_nil_of_along_nil halong
    obtain rfl : α = a := by simpa using ha
    obtain rfl : cs = [] := by simpa [exactInputCommands] using hcs.symm
    rfl
  · obtain ⟨mid, rfl⟩ := exists_mid halong hsteps ha
    have hback := halong.reverse hvault
    have hrev : (a :: mid ++ [α]).reverse = α :: mid.reverse ++ [a] := by simp
    rw [hrev] at hback
    have hnodup' : (α :: mid.reverse ++ [a]).Nodup := by
      rw [← hrev]
      exact List.nodup_reverse.mpr hnodup
    have hne : ∀ t ∈ α :: mid.reverse, t ≠ a := by
      rintro t ht rfl
      exact (List.nodup_append.mp hnodup').2.2 t ht t List.mem_cons_self rfl
    have hα : l.balance v.router α = 0 := hempty α (by simp) (hne α List.mem_cons_self)
    have hnodup'' := (List.nodup_append.mp hnodup').1
    have hempty' : ∀ t ∈ mid.reverse, (l.credit v.router α x).balance v.router t = 0 := by
      intro t ht
      have htα : t ≠ α := by
        rintro rfl
        exact (List.nodup_cons.mp hnodup'').1 ht
      have hmem : t ∈ a :: mid ++ [α] := by simp [List.mem_reverse.mp ht]
      rw [Ledger.balance_credit_of_ne _ (by tauto)]
      exact hempty t hmem (hne t (List.mem_cons_of_mem _ ht))
    have hv' : ∀ s ∈ steps.reverse.map Step.inverse, ∀ w, s.vault? = some w → v.Knows w := by
      intro s hs w hw
      obtain ⟨s', hs', rfl⟩ := List.mem_map.mp hs
      rw [Step.vault?_inverse] at hw
      exact hv s' (List.mem_reverse.mp hs') w hw
    rw [run_chain hcs hback hnodup'' hv' hempty', Ledger.sell_credit hα, Amount.toNat_zero,
      if_pos (Nat.zero_le _), Venue.holder_router]

/-! ### The whole route -/

/-- The swap of a route stands between two neighbours on its path. -/
lemma exists_around (r : BoostedRoute) {before after : List Step} {ca cb : Currency} {p : Pool}
    (hsteps : r.steps = before ++ .swap ca cb p :: after) :
    ∃ us ws, us ++ ca.address :: cb.address :: ws = r.path.map Currency.address ∧
      Along (us ++ [ca.address]) before ∧ Along (cb.address :: ws) after := by
  obtain ⟨-, halong, -⟩ := r.along
  rw [hsteps] at halong
  obtain ⟨us, α, vs, hpath, hbefore, hafter⟩ := halong.split
  cases hafter with
  | @cons _ _ _ β ws hin hout hafter =>
      obtain rfl : ca.address = α := hin
      obtain rfl : cb.address = β := hout
      exact ⟨us, ws, hpath.symm, hbefore, hafter⟩

/-- **A route with a swap spends its budget, gets back what the swap leaves of it, and pays out what
its last step puts out.** It fails only where the router lacks the budget, where the swap costs more
than has reached it, or where the output is below its minimum. -/
theorem run_around {r : BoostedRoute} {before after : List Step} {ca cb : Currency} {p : Pool}
    {bought : Amount} {cs ds es : List Command} {c : Command}
    (hsteps : r.steps = before ++ .swap ca cb p :: after)
    (hbefore : ∀ s ∈ before, s.isSwap = false)
    (hcs : exactInputCommands Sentinel.router 0 amount before = .ok cs)
    (hc : (Step.swap ca cb p).command .exactOutput
      (if after = [] then payee else Sentinel.router) bought
      (if before = [] then amount else Sentinel.wholeBalance) = .ok c)
    (hds : exactInputCommands payee least Sentinel.wholeBalance after = .ok ds)
    (hes : exactInputCommands Sentinel.router 0 Sentinel.wholeBalance
      (before.reverse.map Step.inverse) = .ok es)
    (hleast : after = [] → least = bought)
    (hv : ∀ w, Currency.vault w ∈ r.path → v.Knows w)
    (hempty : ∀ t, t ≠ r.input.address → t ≠ r.output.address → l.balance v.router t = 0) :
    l.run v m i (cs ++ c :: (ds ++ es)) =
      let budget := budget v l r.input.address amount
      let price := m (i + cs.length) c bought.toNat
      let out := m.passed (i + cs.length + 1) ds bought.toNat
      if ((before = [] ∨ l.resolve v r.input.address amount ≤ l.balance v.router r.input.address) ∧
          price ≤ m.passed i cs budget) ∧ least.toNat ≤ out then
        some (l.exchange v r.input.address r.output.address payee budget
          (m.passed (i + cs.length + 1 + ds.length) es (m.passed i cs budget - price)) out)
      else none := by
  obtain ⟨us, ws, hpath, halong, halong'⟩ := exists_around r hsteps
  obtain ⟨hnodup, -, hvaults⟩ := r.along
  obtain ⟨mid, hends⟩ := r.exists_path
  have hv' : ∀ s ∈ r.steps, ∀ w, s.vault? = some w → v.Knows w :=
    fun s hs w hw => hv w (hvaults s hs w hw)
  rw [hsteps] at hv'
  rw [← hpath] at hnodup hends
  have hhead : (us ++ [ca.address]).head? = some r.input.address := by
    have := congrArg List.head? hends
    rcases us with _ | ⟨u, us⟩ <;> simpa using this
  have hlast : (cb.address :: ws).getLast? = some r.output.address := by
    have := congrArg List.getLast? hends
    rwa [List.getLast?_append_cons, List.getLast?_cons_cons, List.getLast?_concat] at this
  -- The tokens up to the swap are not the output, and those after it not the input.
  obtain ⟨hleft, hright, hapart⟩ :=
    List.nodup_append.mp (show (us ++ [ca.address] ++ cb.address :: ws).Nodup by simpa using hnodup)
  have hin : r.input.address ∈ us ++ [ca.address] := List.mem_of_head? hhead
  have hout : r.output.address ∈ cb.address :: ws := List.mem_of_getLast? hlast
  set n := budget v l r.input.address amount
  set price := m (i + cs.length) c bought.toNat
  rw [show cs ++ c :: (ds ++ es) = (cs ++ [c]) ++ (ds ++ es) by simp, Ledger.run_append,
    run_purchase hcs hc halong hleft hhead (fun s hs => hv' s (by simp [hs]))
      fun t ht hta => hempty t hta (hapart t ht _ hout)]
  simp only
  by_cases hbuy : (before = [] ∨
      l.resolve v r.input.address amount ≤ l.balance v.router r.input.address) ∧
      price ≤ m.passed i cs n
  · -- What the swap leaves lies apart from what it buys.
    set left := m.passed i cs n - price
    have hdelivery : ∀ t ∈ cb.address :: ws, t ≠ r.output.address →
        ((l.debit v.router r.input.address n).credit v.router ca.address left).balance
          v.router t = 0 := by
      intro t ht htb
      have hta : t ≠ r.input.address := fun h => hapart _ hin t ht h.symm
      have htα : t ≠ ca.address := fun h => hapart _ (by simp) t ht h.symm
      rw [Ledger.balance_credit_of_ne _ (by tauto), Ledger.balance_debit_of_ne _ (by tauto)]
      exact hempty t hta htb
    rw [if_pos hbuy, Option.bind_some, Ledger.run_append,
      run_delivery hds halong' hright hlast (fun s hs => hv' s (by simp [hs])) hdelivery hleast,
      List.length_append, List.length_singleton, ← Nat.add_assoc]
    by_cases hle : least.toNat ≤ m.passed (i + cs.length + 1) ds bought.toNat
    · have hreturn : ∀ t ∈ us ++ [ca.address], t ≠ r.input.address →
          ((l.debit v.router r.input.address n).credit (v.holder payee) r.output.address
            (m.passed (i + cs.length + 1) ds bought.toNat)).balance v.router t = 0 := by
        intro t ht hta
        have htb : t ≠ r.output.address := hapart t ht _ hout
        rw [Ledger.balance_credit_of_ne _ (by tauto), Ledger.balance_debit_of_ne _ (by tauto)]
        exact hempty t hta htb
      rw [if_pos hle, if_pos ⟨hbuy, hle⟩, Option.bind_some, Ledger.credit_comm,
        run_return hes halong hleft hhead hbefore (fun s hs => hv' s (by simp [hs])) hreturn,
        Ledger.exchange, Ledger.credit_comm]
    · rw [if_neg hle, if_neg fun h => hle h.2, Option.bind_none]
  · rw [if_neg hbuy, if_neg fun h => hbuy h.1, Option.bind_none]

end SwapPlan.BoostedRoute

import SwapPlan.Encode.Route
import SwapPlan.Proofs.Route.Along
import SwapPlan.Proofs.Outcome

/-!
The commands of a boosted route, taken apart. With a fixed input they are a chain of steps, and so
they are with a fixed output if there is no swap. With a swap, a chain leads up to it, one leads on
from it, and one leads what was not spent back to the input.
-/

namespace SwapPlan

/-- Steps with at most one swap have none, or vault steps before and after the one. -/
lemma Step.vaults_or_around {steps : List Step} (h : steps.countP Step.isSwap ≤ 1) :
    (∀ s ∈ steps, s.isSwap = false) ∨
      ∃ before a b p after, steps = before ++ Step.swap a b p :: after ∧
        (∀ s ∈ before, s.isSwap = false) ∧ ∀ s ∈ after, s.isSwap = false := by
  induction steps with
  | nil => exact .inl fun s hs => absurd hs List.not_mem_nil
  | cons s steps ih =>
      by_cases hs : s.isSwap = true
      · obtain ⟨a, b, p, rfl⟩ : ∃ a b p, s = swap a b p := by
          cases s <;> simp_all [isSwap]
        rw [List.countP_cons_of_pos hs] at h
        have hnone : steps.countP isSwap = 0 := by omega
        refine .inr ⟨[], a, b, p, steps, rfl, fun s hs => absurd hs List.not_mem_nil, ?_⟩
        intro s hs
        simpa using List.countP_eq_zero.mp hnone s hs
      · rw [List.countP_cons_of_neg hs] at h
        have hs : s.isSwap = false := by simpa using hs
        rcases ih h with hall | ⟨before, a, b, p, after, rfl, hbefore, hafter⟩
        · refine .inl fun s' hs' => ?_
          rcases List.mem_cons.mp hs' with rfl | hs'
          · exact hs
          · exact hall s' hs'
        · refine .inr ⟨s :: before, a, b, p, after, rfl, fun s' hs' => ?_, hafter⟩
          rcases List.mem_cons.mp hs' with rfl | hs'
          · exact hs
          · exact hbefore s' hs'

namespace BoostedRoute

variable {payee : Address} {least amount : Amount} {s : Step} {steps : List Step}
  {cs : List Command}

/-- What a boosted route with a fixed output becomes under its terms and the amounts that its steps
put out: commands, and the least that they deliver. -/
inductive Encoded (r : BoostedRoute) (t : RouteTerms) (amounts : List Amount) :
    List Command → Amount → Prop
  | vaults {cs : List Command} {least : Amount} (hvault : ∀ s ∈ r.steps, s.isSwap = false)
      (hleast : t.buffer.apply (amounts.getLast?.getD 0) = .ok least)
      (hcs : exactInputCommands t.recipient least t.quotedIn r.steps = .ok cs) :
      Encoded r t amounts cs least
  | around {before after : List Step} {a b : Currency} {p : Pool} {front back : List Amount}
      {bought least : Amount} {cs ds es : List Command} {c : Command}
      (hsteps : r.steps = before ++ .swap a b p :: after)
      (hbefore : ∀ s ∈ before, s.isSwap = false) (hafter : ∀ s ∈ after, s.isSwap = false)
      (hamounts : amounts = front ++ bought :: back)
      (hfront : front.length = before.length) (hback : back.length = after.length)
      (hcs : exactInputCommands Sentinel.router 0 t.amountIn before = .ok cs)
      (hc : (Step.swap a b p).command .exactOutput
        (if after = [] then t.recipient else Sentinel.router) bought
        (if before = [] then t.amountIn else Sentinel.wholeBalance) = .ok c)
      (hds : exactInputCommands t.recipient least Sentinel.wholeBalance after = .ok ds)
      (hes : exactInputCommands Sentinel.router 0 Sentinel.wholeBalance
        (before.reverse.map Step.inverse) = .ok es)
      (hleast : if after = [] then least = bought
        else t.buffer.apply (back.getLast?.getD 0) = .ok least) :
      Encoded r t amounts (cs ++ c :: (ds ++ es)) least

/-! ### Chains of steps -/

lemma exactInputCommands_cons (hne : steps ≠ []) :
    exactInputCommands payee least amount (s :: steps) = .ok cs ↔
      ∃ c cs', s.command .exactInput Sentinel.router amount 0 = .ok c ∧
        exactInputCommands payee least Sentinel.wholeBalance steps = .ok cs' ∧ cs = c :: cs' := by
  rcases steps with _ | ⟨s', steps⟩
  · exact absurd rfl hne
  · simp only [exactInputCommands, bind_eq_ok, pure_eq_ok]
    constructor
    · rintro ⟨c, hc, cs', hcs', rfl⟩
      exact ⟨c, cs', hc, hcs', rfl⟩
    · rintro ⟨c, cs', hc, hcs', rfl⟩
      exact ⟨c, hc, cs', hcs', rfl⟩

lemma exactInputCommands_singleton :
    exactInputCommands payee least amount [s] = .ok cs ↔
      ∃ c, s.command .exactInput payee amount least = .ok c ∧ cs = [c] := by
  simp only [exactInputCommands, bind_eq_ok, pure_eq_ok]
  constructor <;> rintro ⟨c, hc, rfl⟩ <;> exact ⟨c, hc, rfl⟩

/-! ### Steps before and after the swap -/

lemma exactOutputCommand_vault (h : s.isSwap = false) (out : Amount) :
    exactOutputCommand payee amount least out s = s.command .exactInput payee amount least := by
  cases s <;> first | rfl | simp [Step.isSwap] at h

lemma exactOutputCommands_cons {out : Amount} {rest : List (Step × Amount)} (hne : rest ≠ []) :
    exactOutputCommands payee least amount ((s, out) :: rest) = .ok cs ↔
      ∃ c cs', exactOutputCommand Sentinel.router amount 0 out s = .ok c ∧
        exactOutputCommands payee least Sentinel.wholeBalance rest = .ok cs' ∧
        cs = c :: cs' := by
  rcases rest with _ | ⟨⟨s', out'⟩, rest⟩
  · exact absurd rfl hne
  · simp only [exactOutputCommands, bind_eq_ok, pure_eq_ok]
    constructor
    · rintro ⟨c, hc, cs', hcs', rfl⟩
      exact ⟨c, cs', hc, hcs', rfl⟩
    · rintro ⟨c, cs', hc, hcs', rfl⟩
      exact ⟨c, hc, cs', hcs', rfl⟩

/-- Vault steps take their amounts from each other and not from what was quoted. -/
lemma exactOutputCommands_vaults {amounts : List Amount} (hlen : amounts.length = steps.length)
    (hv : ∀ s ∈ steps, s.isSwap = false) :
    exactOutputCommands payee least amount (steps.zip amounts) =
      exactInputCommands payee least amount steps := by
  induction steps generalizing amount amounts with
  | nil => rfl
  | cons s steps ih =>
      have hs : s.isSwap = false := hv s List.mem_cons_self
      match amounts, hlen with
      | out :: amounts, hlen =>
      have hlen : amounts.length = steps.length := by simpa using hlen
      rcases steps with _ | ⟨s', steps⟩
      · simp only [List.zip_cons_cons, List.zip_nil_left, exactOutputCommands, exactInputCommands,
          exactOutputCommand_vault hs]
      · match amounts, hlen with
        | out' :: amounts, hlen =>
        have hrest : exactOutputCommands payee least Sentinel.wholeBalance
            ((s', out') :: steps.zip amounts) =
              exactInputCommands payee least Sentinel.wholeBalance (s' :: steps) :=
          ih hlen fun s hs => hv s (List.mem_cons_of_mem _ hs)
        simp only [List.zip_cons_cons, exactOutputCommands, exactInputCommands,
          exactOutputCommand_vault hs, hrest]

lemma exactOutputCommands_around {before after : List Step} {a b : Currency} {p : Pool}
    {front back : List Amount} {bought : Amount} (hfront : front.length = before.length)
    (hback : back.length = after.length) (hbefore : ∀ s ∈ before, s.isSwap = false)
    (hafter : ∀ s ∈ after, s.isSwap = false)
    (h : exactOutputCommands payee least amount
      ((before ++ .swap a b p :: after).zip (front ++ bought :: back)) = .ok cs) :
    ∃ cs' c ds, exactInputCommands Sentinel.router 0 amount before = .ok cs' ∧
      (Step.swap a b p).command .exactOutput
        (if after = [] then payee else Sentinel.router) bought
        (if before = [] then amount else Sentinel.wholeBalance) = .ok c ∧
      exactInputCommands payee least Sentinel.wholeBalance after = .ok ds ∧
      cs = cs' ++ c :: ds := by
  induction before generalizing amount front cs with
  | nil =>
      obtain rfl : front = [] := List.eq_nil_of_length_eq_zero hfront
      rw [List.nil_append, List.nil_append, List.zip_cons_cons] at h
      by_cases hnil : after = []
      · subst hnil
        simp only [List.zip_nil_left, exactOutputCommands, bind_eq_ok, pure_eq_ok] at h
        obtain ⟨c, hc, rfl⟩ := h
        exact ⟨[], c, [], rfl, hc, rfl, rfl⟩
      · have hne : after.zip back ≠ [] := by
          intro hzip
          have hlen : (after.zip back).length = 0 := by rw [hzip]; rfl
          rw [List.length_zip, hback, Nat.min_self] at hlen
          exact hnil (List.eq_nil_of_length_eq_zero hlen)
        obtain ⟨c, ds, hc, hds, rfl⟩ := (exactOutputCommands_cons hne).mp h
        rw [exactOutputCommands_vaults hback hafter] at hds
        exact ⟨[], c, ds, rfl, by rw [if_neg hnil, if_pos rfl]; exact hc, hds, rfl⟩
  | cons s before ih =>
      have hs : s.isSwap = false := hbefore s List.mem_cons_self
      match front, hfront with
      | out :: front, hfront =>
      rw [List.cons_append, List.cons_append, List.zip_cons_cons] at h
      have hne : (before ++ Step.swap a b p :: after).zip (front ++ bought :: back) ≠ [] := by
        rcases before with _ | ⟨s', before⟩ <;> rcases front with _ | ⟨out', front⟩ <;> simp
      obtain ⟨c, ds, hc, hds, rfl⟩ := (exactOutputCommands_cons hne).mp h
      obtain ⟨cs', c', ds', hcs', hc', hds', rfl⟩ :=
        ih (by simpa using hfront) (fun s hs => hbefore s (List.mem_cons_of_mem _ hs)) hds
      rw [exactOutputCommand_vault hs] at hc
      refine ⟨c :: cs', c', ds', ?_, ?_, hds', rfl⟩
      · rcases before with _ | ⟨s', before⟩
        · simp only [exactInputCommands, Except.ok.injEq] at hcs'
          subst hcs'
          exact exactInputCommands_singleton.mpr ⟨c, hc, rfl⟩
        · exact (exactInputCommands_cons (List.cons_ne_nil s' before)).mpr
            ⟨c, cs', hc, hcs', rfl⟩
      · rw [if_neg (List.cons_ne_nil s before)]
        simpa using hc'

/-! ### The way back -/

/-- Undoing vault steps is a chain of the inverse steps. -/
lemma exactInputCommands_inverse (hv : ∀ s ∈ steps, s.isSwap = false) :
    exactInputCommands Sentinel.router 0 Sentinel.wholeBalance (steps.map Step.inverse) =
      .ok (steps.filterMap Step.undo?) := by
  have hundo : ∀ s ∈ steps, ∃ c, s.undo? = some c ∧
      s.inverse.command .exactInput Sentinel.router Sentinel.wholeBalance 0 = .ok c := by
    intro s hs
    have := hv s hs
    cases s <;> simp_all [Step.isSwap, Step.undo?, Step.inverse, Step.command]
  clear hv
  induction steps with
  | nil => rfl
  | cons s steps ih =>
      obtain ⟨c, hc, hcommand⟩ := hundo s List.mem_cons_self
      have hrest := ih fun s hs => hundo s (List.mem_cons_of_mem _ hs)
      rw [List.map_cons, List.filterMap_cons_some hc]
      rcases steps with _ | ⟨s', steps⟩
      · exact exactInputCommands_singleton.mpr ⟨c, hcommand, rfl⟩
      · exact (exactInputCommands_cons (by simp)).mpr ⟨c, _, hcommand, hrest, rfl⟩

lemma unwind_vaults {r : BoostedRoute} (hv : ∀ s ∈ r.steps, s.isSwap = false) :
    r.unwind = [] := by
  refine if_neg ?_
  rw [List.any_eq_true]
  rintro ⟨s, hs, hswap⟩
  rw [hv s hs] at hswap
  exact Bool.false_ne_true hswap

lemma unwind_around {r : BoostedRoute} {before after : List Step} {a b : Currency} {p : Pool}
    (hsteps : r.steps = before ++ .swap a b p :: after)
    (hbefore : ∀ s ∈ before, s.isSwap = false) :
    r.unwind = before.reverse.filterMap Step.undo? := by
  have hany : r.steps.any Step.isSwap = true := by
    rw [hsteps]
    simp [Step.isSwap]
  have htake : (r.steps.takeWhile fun s => !s.isSwap) = before := by
    rw [hsteps, List.takeWhile_append_of_pos (by simpa using hbefore),
      List.takeWhile_cons_of_neg (by simp [Step.isSwap]), List.append_nil]
  rw [unwind, if_pos hany, htake]

/-! ### The whole route -/

lemma outputAmounts_eq_ok {r : BoostedRoute} {t : RouteTerms} {amounts : List Amount} :
    r.outputAmounts t = .ok amounts ↔
      r.steps.countP Step.isSwap ≤ 1 ∧ t.stepAmountsOut = some amounts ∧
        amounts.length = r.steps.length := by
  unfold outputAmounts swapCount
  constructor
  · intro h
    split at h
    · simp at h
    · rename_i hcount
      split at h
      · simp at h
      · rename_i amounts' hamounts
        split at h
        · rename_i hlen
          obtain rfl := Except.ok.inj h
          exact ⟨by omega, hamounts, hlen⟩
        · simp at h
  · rintro ⟨hcount, hamounts, hlen⟩
    rw [if_neg (by omega), hamounts]
    exact if_pos hlen

/-- **A boosted route with a fixed output is encoded around its swap.** -/
theorem encoded_of_encode {r : BoostedRoute} {t : RouteTerms} {least : Amount}
    (ht : t.tradeType = .exactOutput) (h : r.encode t = .ok (cs, least)) :
    ∃ amounts, t.stepAmountsOut = some amounts ∧ amounts.length = r.steps.length ∧
      Encoded r t amounts cs least := by
  simp only [encode, ht, bind_eq_ok, pure_eq_ok, Prod.mk.injEq] at h
  obtain ⟨amounts, hamounts, d, hd, main, hmain, rfl, rfl⟩ := h
  obtain ⟨hcount, hstep, hlen⟩ := outputAmounts_eq_ok.mp hamounts
  refine ⟨amounts, hstep, hlen, ?_⟩
  rcases Step.vaults_or_around hcount with hv | ⟨before, a, b, p, after, hsteps, hbefore, hafter⟩
  · have hany : r.steps.any Step.isSwap = false := by simpa using hv
    have hlast : (r.steps.getLast?.map Step.isSwap).getD false = false := by
      cases hs : r.steps.getLast? with
      | none => rfl
      | some s => exact hv s (List.mem_of_getLast? hs)
    rw [hany, exactOutputCommands_vaults hlen hv] at hmain
    rw [delivered, hlast] at hd
    rw [unwind_vaults hv, List.append_nil]
    exact .vaults hv hd hmain
  · have hany : r.steps.any Step.isSwap = true := by
      rw [hsteps]
      simp [Step.isSwap]
    obtain ⟨front, bought, back, hsplit, hfront, hback⟩ : ∃ front bought back,
        amounts = front ++ bought :: back ∧ front.length = before.length ∧
          back.length = after.length := by
      rw [hsteps, List.length_append, List.length_cons] at hlen
      have hlt : before.length < amounts.length := by omega
      refine ⟨amounts.take before.length, amounts[before.length],
        amounts.drop (before.length + 1), ?_, ?_, ?_⟩
      · rw [← List.drop_eq_getElem_cons hlt, List.take_append_drop]
      · rw [List.length_take]
        omega
      · rw [List.length_drop]
        omega
    rw [hany, if_pos rfl, hsteps, hsplit] at hmain
    obtain ⟨cs', c, ds, hcs', hc, hds, rfl⟩ :=
      exactOutputCommands_around hfront hback hbefore hafter hmain
    rw [unwind_around hsteps hbefore, List.append_assoc, List.cons_append]
    refine .around hsteps hbefore hafter hsplit hfront hback hcs' hc hds
      (by rw [← exactInputCommands_inverse (by simpa using hbefore)]) ?_
    rw [delivered, hsteps, hsplit] at hd
    by_cases hnil : after = []
    · subst hnil
      obtain rfl : back = [] := List.eq_nil_of_length_eq_zero hback
      rw [if_pos rfl]
      simpa [Step.isSwap, eq_comm] using hd
    · obtain ⟨s, hs⟩ : ∃ s, after.getLast? = some s :=
        ⟨_, List.getLast?_eq_some_getLast hnil⟩
      have hne : back ≠ [] := by
        rintro rfl
        exact hnil (List.eq_nil_of_length_eq_zero hback.symm)
      obtain ⟨x, hx⟩ : ∃ x, back.getLast? = some x := ⟨_, List.getLast?_eq_some_getLast hne⟩
      have hswap : s.isSwap = false := hafter s (List.mem_of_getLast? hs)
      rw [if_neg hnil, hx]
      simpa [List.getLast?_append, List.getLast?_cons, hs, hx, hswap] using hd

end BoostedRoute

end SwapPlan

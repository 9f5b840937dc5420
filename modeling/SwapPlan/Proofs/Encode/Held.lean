import SwapPlan.Proofs.Command
import SwapPlan.Proofs.Encode.Boosted
import SwapPlan.Proofs.Encode.Trade

/-!
Commands that their inputs hold. Only a permit can differ from what its input holds, and a trade
takes no permit that does.
-/

namespace SwapPlan

variable {payee : Address} {least amount : Amount} {cs : List Command}

lemma Step.capped_of_command {s : Step} {side : TradeType} {c : Command}
    (h : s.command side payee amount least = .ok c) : c.capped = c := by
  cases s with
  | wrap v | unwrap v =>
      cases h
      rfl
  | swap a b p =>
      simp only [Step.command, bind_eq_ok, pure_eq_ok] at h
      obtain ⟨path, -, rfl⟩ := h
      rfl

namespace BoostedRoute

lemma capped_of_exactInputCommands {steps : List Step}
    (h : exactInputCommands payee least amount steps = .ok cs) : ∀ c ∈ cs, c.capped = c := by
  induction steps generalizing amount cs with
  | nil =>
      cases h
      exact fun c hc => absurd hc List.not_mem_nil
  | cons s steps ih =>
      by_cases hnil : steps = []
      · subst hnil
        obtain ⟨c, hc, rfl⟩ := exactInputCommands_singleton.mp h
        exact List.forall_mem_singleton.mpr (Step.capped_of_command hc)
      · obtain ⟨c, cs', hc, hcs', rfl⟩ := (exactInputCommands_cons hnil).mp h
        exact List.forall_mem_cons.mpr ⟨Step.capped_of_command hc, ih hcs'⟩

lemma capped_of_encode {r : BoostedRoute} {t : RouteTerms} (h : r.encode t = .ok (cs, least)) :
    ∀ c ∈ cs, c.capped = c := by
  cases ht : t.tradeType with
  | exactInput =>
      simp only [encode, ht, bind_eq_ok, pure_eq_ok, Prod.mk.injEq] at h
      obtain ⟨cs', hcs, rfl, -⟩ := h
      exact capped_of_exactInputCommands hcs
  | exactOutput =>
      obtain ⟨amounts, -, -, hencoded⟩ := encoded_of_encode ht h
      cases hencoded with
      | vaults _ _ hcs => exact capped_of_exactInputCommands hcs
      | around _ _ _ _ _ _ hcs hc hds hes _ =>
          refine List.forall_mem_append.mpr ⟨capped_of_exactInputCommands hcs, ?_⟩
          refine List.forall_mem_cons.mpr ⟨Step.capped_of_command hc, ?_⟩
          exact List.forall_mem_append.mpr
            ⟨capped_of_exactInputCommands hds, capped_of_exactInputCommands hes⟩

end BoostedRoute

lemma PoolRoute.capped_of_encode {r : PoolRoute} {t : RouteTerms}
    (h : r.encode t = .ok (cs, least)) : ∀ c ∈ cs, c.capped = c := by
  simp only [encode, bind_eq_ok, pure_eq_ok, Prod.mk.injEq] at h
  obtain ⟨path, -, rfl, -⟩ := h
  exact List.forall_mem_singleton.mpr rfl

namespace Trade

variable {t : Trade} {o : SwapOptions} {value : Amount}

lemma capped_of_routeCommands {delivered total : Amount} {swaps : List TradeSwap}
    (h : t.routeCommands o delivered swaps = .ok (cs, total)) : ∀ c ∈ cs, c.capped = c := by
  induction swaps generalizing delivered cs with
  | nil =>
      cases h
      exact fun c hc => absurd hc List.not_mem_nil
  | cons s swaps ih =>
      obtain ⟨terms, cs', out, delivered', rest, -, hencode, -, hrest, rfl⟩ :=
        routeCommands_cons.mp h
      refine List.forall_mem_append.mpr ⟨?_, ih hrest⟩
      cases hroute : s.route with
      | pooled r => exact PoolRoute.capped_of_encode (by rwa [hroute] at hencode)
      | boosted r => exact BoostedRoute.capped_of_encode (by rwa [hroute] at hencode)

lemma capped_of_intake {maxIn : Amount} {c : Command} (h : t.intake maxIn = .ok c) :
    c.capped = c := by
  rcases intake_eq_ok h with ⟨-, rfl⟩ | ⟨-, amount, -, rfl⟩ <;> rfl

lemma capped_payout (c : Currency) : (payout c payee least).capped = payout c payee least := by
  unfold payout
  split <;> rfl

lemma capped_of_mem_closing : ∀ c ∈ t.closing o least, c.capped = c := by
  intro c hc
  simp only [closing, List.mem_append, List.mem_ite_nil_right, List.mem_singleton] at hc
  rcases hc with ⟨-, rfl⟩ | ⟨-, rfl⟩ | ⟨-, rfl⟩
  · exact capped_payout _
  · exact capped_payout _
  · rfl

/-- A permit that goes with a trade has times that fit its fields. -/
lemma capped_of_permitFault? {p : Permit} (h : t.permitFault? (some p) = none) : p.capped = p := by
  obtain ⟨-, htimes⟩ :=
    Permit.fault?_eq_none.mp ((permitFault?_iff.mp h).2 p (Option.mem_some_self p))
  exact Permit.capped_eq_self.mpr htimes

/-- A plan has only commands that their inputs hold. -/
lemma capped_of_commands (h : t.commands o = .ok (cs, value)) : ∀ c ∈ cs, c.capped = c := by
  have hfault := permitFault?_eq_none h
  obtain ⟨minOut, maxIn, intake, routes, delivered, -, -, hintake, hroutes, rfl, -⟩ :=
    commands_eq_ok h
  refine List.forall_mem_append.mpr ⟨?_, List.forall_mem_cons.mpr ⟨capped_of_intake hintake,
    List.forall_mem_append.mpr ⟨capped_of_routeCommands hroutes, capped_of_mem_closing⟩⟩⟩
  intro c hc
  obtain ⟨p, hp, rfl⟩ := List.mem_map.mp hc
  rw [Option.mem_toList.mp hp] at hfault
  exact congrArg Command.permit2Permit (capped_of_permitFault? hfault)

end Trade

end SwapPlan

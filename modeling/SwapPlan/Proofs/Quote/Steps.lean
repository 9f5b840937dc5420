import SwapPlan.Quote.Quoter
import SwapPlan.Proofs.Encode.Boosted

/-!
The step amounts of a route, taken apart. They are asked for from the last step to the first, each
for what the step after it needs.
-/

namespace SwapPlan.Quoter

variable {α β : Type} {backend : QuoterBackend Id} {vaults : VaultPreview Id}
  {out needed : Amount} {s : Step} {steps : List Step} {amounts : List (Amount × Amount)}

/-- The answer of a question that is asked without effects. -/
def answer (x : ExceptT Error Id α) : Except Error α := x.run

lemma answer_bind {x : ExceptT Error Id α} {f : α → ExceptT Error Id β} {b : β} :
    answer (x >>= f) = .ok b ↔ ∃ a, answer x = .ok a ∧ answer (f a) = .ok b := by
  have hbind : answer (x >>= f) = answer x >>= fun a => answer (f a) := by
    simp only [answer, ExceptT.run_bind]
    cases x.run <;> rfl
  rw [hbind, bind_eq_ok]

lemma answer_pure {a b : α} : answer (pure a : ExceptT Error Id α) = .ok b ↔ a = b :=
  pure_eq_ok

lemma answer_chain_cons :
    answer (chain backend vaults out (s :: steps)) = .ok (amounts, needed) ↔
      ∃ rest next, answer (chain backend vaults out steps) = .ok (rest, next) ∧
        answer (stepInput backend vaults s next) = .ok needed ∧
        amounts = (needed, next) :: rest := by
  simp only [chain, answer_bind, answer_pure, Prod.mk.injEq, Prod.exists]
  constructor
  · rintro ⟨rest, next, hrest, input, hinput, rfl, rfl⟩
    exact ⟨rest, next, hrest, hinput, rfl⟩
  · rintro ⟨rest, next, hrest, hinput, rfl⟩
    exact ⟨rest, next, hrest, needed, hinput, rfl, rfl⟩

lemma length_of_chain (h : answer (chain backend vaults out steps) = .ok (amounts, needed)) :
    amounts.length = steps.length := by
  induction steps generalizing amounts needed with
  | nil =>
      obtain ⟨rfl, -⟩ := Prod.mk.inj (Except.ok.inj h)
      rfl
  | cons s steps ih =>
      obtain ⟨rest, next, hrest, -, rfl⟩ := answer_chain_cons.mp h
      rw [List.length_cons, ih hrest, List.length_cons]

/-- The first steps are asked for what the later ones need. -/
lemma answer_chain_append {steps' : List Step}
    (h : answer (chain backend vaults out (steps ++ steps')) = .ok (amounts, needed)) :
    ∃ before next after, answer (chain backend vaults out steps') = .ok (after, next) ∧
      answer (chain backend vaults next steps) = .ok (before, needed) ∧
      amounts = before ++ after := by
  induction steps generalizing amounts needed with
  | nil => exact ⟨[], needed, amounts, h, rfl, rfl⟩
  | cons s steps ih =>
      obtain ⟨rest, mid, hrest, hinput, rfl⟩ := answer_chain_cons.mp h
      obtain ⟨before, next, after, hafter, hbefore, rfl⟩ := ih hrest
      exact ⟨(needed, mid) :: before, next, after, hafter,
        answer_chain_cons.mpr ⟨before, mid, hbefore, hinput, rfl⟩, rfl⟩

lemma head_of_chain (hne : steps ≠ [])
    (h : answer (chain backend vaults out steps) = .ok (amounts, needed)) :
    (amounts.map Prod.fst).head? = some needed := by
  rcases steps with _ | ⟨s, steps⟩
  · exact absurd rfl hne
  · obtain ⟨rest, next, -, -, rfl⟩ := answer_chain_cons.mp h
    rfl

/-- The last step is asked for the output of the route. -/
lemma last_of_chain (hne : steps ≠ [])
    (h : answer (chain backend vaults out steps) = .ok (amounts, needed)) :
    (amounts.map Prod.snd).getLast? = some out := by
  induction steps generalizing amounts needed with
  | nil => exact absurd rfl hne
  | cons s steps ih =>
      obtain ⟨rest, next, hrest, -, rfl⟩ := answer_chain_cons.mp h
      by_cases hnil : steps = []
      · subst hnil
        obtain ⟨rfl, rfl⟩ := Prod.mk.inj (Except.ok.inj hrest)
        rfl
      · have hlast := ih hnil hrest
        rcases rest with _ | ⟨a, rest⟩
        · simp at hlast
        · rw [List.map_cons, List.map_cons, List.getLast?_cons_cons, ← List.map_cons]
          exact hlast

lemma answer_stepAmounts {r : BoostedRoute} {quoted : StepAmounts}
    (h : answer (stepAmounts backend vaults r out) = .ok quoted) :
    ∃ amounts needed, answer (chain backend vaults out r.steps) = .ok (amounts, needed) ∧
      quoted = ⟨amounts.map Prod.fst, amounts.map Prod.snd⟩ := by
  simp only [stepAmounts, answer_bind, answer_pure, Prod.exists] at h
  obtain ⟨amounts, needed, hchain, rfl⟩ := h
  exact ⟨amounts, needed, hchain, rfl⟩

/-- A swap is asked for by a plan of one command over its own path. -/
lemma answer_stepInput_swap {a b : Currency} {p : Pool}
    (h : answer (stepInput backend vaults (.swap a b p) out) = .ok needed) :
    ∃ path raw rest o, SwapPath.ofSwap a b p .exactOutput = .ok path ∧
      answer (backend.execute
        (Plan.ofCommands [QuotePlan.unbounded .exactOutput path out]).quoteCall) =
          .ok (raw :: rest) ∧
      QuotePlan.decodeSwap raw = .ok o ∧ o.amount = needed := by
  simp only [stepInput, answer_bind] at h
  obtain ⟨path, hpath, outputs, houtputs, h⟩ := h
  rcases outputs with _ | ⟨raw, rest⟩
  · simp only [List.head?_nil] at h
    exact absurd h throw_ne_ok
  · simp only [List.head?_cons, answer_bind, answer_pure] at h
    obtain ⟨o, ho, rfl⟩ := h
    exact ⟨path, raw, rest, o, hpath, houtputs, ho, rfl⟩

end SwapPlan.Quoter

import SwapPlan.Proofs.Route.WellFormed

/-!
The tokens along the steps of a boosted route. Each step takes up the token that the one before put
out, the steps lead over the tokens of the path, and no token comes twice.
-/

namespace SwapPlan

namespace Step

/-- The vault that a step deposits to or redeems from. -/
def vault? : Step → Option Vault
  | wrap w | unwrap w => some w
  | swap .. => none

/-- The vault step that leads back; a swap is left as it is. -/
def inverse : Step → Step
  | wrap w => unwrap w
  | unwrap w => wrap w
  | swap a b p => swap a b p

/-- Steps that lead over a list of tokens, from each to the next. -/
inductive Along : List Address → List Step → Prop
  | nil (a : Address) : Along [a] []
  | cons {s : Step} {steps : List Step} {a b : Address} {ts : List Address}
      (hin : s.tokenIn.address = a) (hout : s.tokenOut.address = b)
      (hrest : Along (b :: ts) steps) : Along (a :: b :: ts) (s :: steps)

variable {a b : Address} {ts us : List Address} {s : Step} {steps steps' : List Step}

lemma vault?_inverse (s : Step) : s.inverse.vault? = s.vault? := by cases s <;> rfl

lemma tokenIn_inverse (h : s.isSwap = false) :
    s.inverse.tokenIn.address = s.tokenOut.address := by
  cases s <;> first | rfl | simp [isSwap] at h

lemma tokenOut_inverse (h : s.isSwap = false) :
    s.inverse.tokenOut.address = s.tokenIn.address := by
  cases s <;> first | rfl | simp [isSwap] at h

namespace Along

lemma length_eq (h : Along ts steps) : ts.length = steps.length + 1 := by
  induction h with
  | nil a => rfl
  | cons hin hout _ ih => rw [List.length_cons, ih, List.length_cons]

lemma append (h : Along (us ++ [b]) steps) (h' : Along (b :: ts) steps') :
    Along (us ++ b :: ts) (steps ++ steps') := by
  induction us generalizing steps with
  | nil =>
      cases h
      exact h'
  | cons a us ih =>
      rw [List.cons_append] at h ⊢
      generalize hall : us ++ [b] = all at h
      cases h with
      | nil => simp at hall
      | @cons s steps _ c cs hin hout hrest =>
          have hnext := ih (hall ▸ hrest)
          rcases us with _ | ⟨u, us⟩
          · obtain ⟨rfl, rfl⟩ : b = c ∧ [] = cs := by simpa using hall
            exact .cons hin hout hnext
          · obtain ⟨rfl, -⟩ : u = c ∧ us ++ [b] = cs := by simpa using hall
            exact .cons hin hout hnext

/-- Steps that are split meet in one token. -/
lemma split (h : Along ts (steps ++ steps')) :
    ∃ us b vs, ts = us ++ b :: vs ∧ Along (us ++ [b]) steps ∧ Along (b :: vs) steps' := by
  induction steps generalizing ts with
  | nil =>
      obtain ⟨a, vs, rfl⟩ := List.exists_cons_of_length_eq_add_one h.length_eq
      exact ⟨[], a, vs, rfl, .nil a, h⟩
  | cons s steps ih =>
      cases h with
      | @cons _ _ a b ts hin hout hrest =>
          obtain ⟨us, c, vs, heq, hleft, hright⟩ := ih hrest
          rcases us with _ | ⟨u, us⟩
          · obtain ⟨rfl, rfl⟩ : b = c ∧ ts = vs := by simpa using heq
            exact ⟨[a], b, ts, rfl, .cons hin hout hleft, hright⟩
          · obtain ⟨rfl, rfl⟩ : b = u ∧ ts = us ++ c :: vs := by simpa using heq
            exact ⟨a :: b :: us, c, vs, rfl, .cons hin hout hleft, hright⟩

/-- Vault steps undone, last step first, lead back over the same tokens. -/
lemma reverse (h : Along ts steps) (hv : ∀ s ∈ steps, s.isSwap = false) :
    Along ts.reverse (steps.reverse.map inverse) := by
  induction h with
  | nil a => exact .nil a
  | @cons s steps a b ts hin hout _ ih =>
      have hs := hv s List.mem_cons_self
      have hback : Along [b, a] [s.inverse] :=
        .cons (by rw [tokenIn_inverse hs, hout]) (by rw [tokenOut_inverse hs, hin]) (.nil a)
      have hrest := ih fun s hs => hv s (List.mem_cons_of_mem _ hs)
      rw [List.reverse_cons] at hrest
      simpa using hrest.append hback

end Along

/-- A step from one currency to its neighbour, and the vault that it goes by. -/
lemma Taken.tokens {a b : Currency} (h : Taken a b s) :
    s.tokenIn.address = a.address ∧ s.tokenOut.address = b.address ∧
      ∀ w, s.vault? = some w → Currency.vault w = a ∨ Currency.vault w = b := by
  have haddress {c d : Currency} (hcd : c.wrapsTo d = true) : c.address = d.address := by
    simp only [Currency.wrapsTo, Token.same, decide_eq_true_eq] at hcd
    exact hcd.2
  refine ⟨haddress h.leads.tokenIn, haddress h.leads.tokenOut, fun w hw => ?_⟩
  cases h with
  | wrap _ hb => exact .inr (by rw [hb, ← Option.some.inj hw])
  | unwrap _ ha => exact .inl (by rw [ha, ← Option.some.inj hw])
  | swap => cases hw

end Step

namespace BoostedRoute

open Step (Along Taken)

lemma along_of_taken {a : Currency} {rest : List Currency} {steps : List Step}
    (h : List.Forall₂ (fun ab s => Taken ab.1 ab.2 s) (Route.pairs (a :: rest)) steps) :
    Along ((a :: rest).map Currency.address) steps ∧
      ∀ s ∈ steps, ∀ w, s.vault? = some w → Currency.vault w ∈ a :: rest := by
  induction rest generalizing a steps with
  | nil =>
      cases h
      exact ⟨.nil _, fun s hs => absurd hs List.not_mem_nil⟩
  | cons b rest ih =>
      obtain ⟨s, steps, htaken, hrest, rfl⟩ := List.forall₂_cons_left_iff.mp h
      obtain ⟨hin, hout, hvault⟩ := htaken.tokens
      obtain ⟨halong, hvaults⟩ := ih hrest
      refine ⟨.cons hin hout halong, fun s' hs' w hw => ?_⟩
      rcases List.mem_cons.mp hs' with rfl | hs'
      · rcases hvault w hw with h | h <;> simp [h]
      · exact List.mem_cons_of_mem _ (hvaults s' hs' w hw)

/-- **The steps of a route lead over the tokens of its path, of which none comes twice.** -/
theorem along (r : BoostedRoute) :
    (r.path.map Currency.address).Nodup ∧ Along (r.path.map Currency.address) r.steps ∧
      ∀ s ∈ r.steps, ∀ w, s.vault? = some w → Currency.vault w ∈ r.path := by
  obtain ⟨-, -, hnodup, htaken, -⟩ := steps?_eq_ok.mp r.sound
  obtain ⟨a, rest, hpath⟩ := List.exists_cons_of_ne_nil r.path_ne_nil
  have halong := along_of_taken (hpath ▸ htaken)
  rw [← hpath] at halong
  exact ⟨hnodup, halong⟩

/-- The tokens of a path are its ends and those between. -/
lemma exists_path (r : BoostedRoute) :
    ∃ mid, r.path.map Currency.address = r.input.address :: mid ++ [r.output.address] := by
  match hpath : r.path, r.two_le_length_path with
  | a :: b :: rest, _ =>
    obtain ⟨init, z, hz⟩ : ∃ init z, b :: rest = init ++ [z] :=
      ⟨_, _, (List.dropLast_append_getLast (List.cons_ne_nil b rest)).symm⟩
    refine ⟨init.map Currency.address, ?_⟩
    simp only [input, output, hpath, hz]
    simp

/-- A boosted route leads away from where it begins. -/
lemma input_ne_output (r : BoostedRoute) : r.input.address ≠ r.output.address := by
  intro hends
  obtain ⟨mid, hpath⟩ := r.exists_path
  have hnodup := r.along.1
  rw [hpath, hends] at hnodup
  exact (List.nodup_cons.mp hnodup).1 (List.mem_append_right _ (List.mem_singleton_self _))

lemma steps_ne_nil (r : BoostedRoute) : r.steps ≠ [] := by
  intro hnil
  have hlen := r.along.2.1.length_eq
  rw [hnil, List.length_map] at hlen
  have := r.two_le_length_path
  simp only [List.length_nil] at hlen
  omega

end BoostedRoute

end SwapPlan

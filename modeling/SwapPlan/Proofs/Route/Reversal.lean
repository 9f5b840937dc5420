import SwapPlan.Proofs.Route.WellFormed

/-!
Routes taken from their end. No condition on a path or its pools tells one direction from the other,
so a path has a route just where the reversed path has one, which undoes the steps in reverse order.
-/

namespace SwapPlan

section Reverse

variable {a b : Currency} {path : List Currency}

/-! ### Pairs, either way round -/

lemma Currency.wrapsTo_comm : a.wrapsTo b = b.wrapsTo a := by
  simp only [wrapsTo, Token.same, eq_comm]

lemma Currency.vaultPair_comm : a.vaultPair b = b.vaultPair a := by
  simp only [vaultPair, bne_comm, Bool.or_comm]

lemma Pool.joins_comm {p : Pool} : p.Joins a b ↔ p.Joins b a :=
  or_comm.trans (or_congr and_comm and_comm)

namespace Step

/-- The step that leads back: a redemption for a deposit, and a swap through the same pool. -/
def reverse : Step → Step
  | wrap w => unwrap w
  | unwrap w => wrap w
  | swap a b p => swap b a p

variable {s : Step}

lemma pool?_reverse (s : Step) : s.reverse.pool? = s.pool? := by cases s <;> rfl

lemma Taken.reverse (h : Taken a b s) : Taken b a s.reverse := by
  cases h with
  | wrap hpair hb => exact .unwrap (Currency.vaultPair_comm.trans hpair) hb
  | unwrap hpair ha => exact .wrap (Currency.vaultPair_comm.trans hpair) ha
  | swap hpair hne hp =>
      exact .swap (Currency.vaultPair_comm.trans hpair) (Currency.wrapsTo_comm.trans hne)
        (Pool.joins_comm.mp hp)

end Step

/-! ### Paths -/

namespace Route

lemma OnOneChain.reverse (h : OnOneChain path) : OnOneChain path.reverse := fun c hc d hd =>
  h c (List.mem_reverse.mp hc) d (List.mem_reverse.mp hd)

lemma getElem?_of_reverse {α : Type} {l : List α} {i : Nat} {x : α}
    (h : l.reverse[i]? = some x) : i < l.length ∧ l[l.length - 1 - i]? = some x := by
  have hi : i < l.length := by
    have := (List.getElem?_eq_some_iff.mp h).1
    rwa [List.length_reverse] at this
  exact ⟨hi, by rwa [List.getElem?_reverse hi] at h⟩

lemma NativeAtEnds.reverse (h : NativeAtEnds path) : NativeAtEnds path.reverse := by
  intro i c hi hnative
  obtain ⟨hlt, hc⟩ := getElem?_of_reverse hi
  have := h _ c hc hnative
  rw [List.length_reverse]
  omega

lemma pairs_concat (path : List Currency) (a b : Currency) :
    pairs (path ++ [b] ++ [a]) = pairs (path ++ [b]) ++ [(b, a)] := by
  induction path with
  | nil => rfl
  | cons c path ih =>
      rcases path with _ | ⟨d, path⟩
      · rfl
      · exact congrArg ((c, d) :: ·) ih

lemma pairs_reverse (path : List Currency) :
    pairs path.reverse = ((pairs path).map Prod.swap).reverse := by
  match path with
  | [] => rfl
  | [_] => rfl
  | a :: b :: path =>
    calc pairs (a :: b :: path).reverse
        = pairs (path.reverse ++ [b] ++ [a]) := by rw [List.reverse_cons, List.reverse_cons]
      _ = pairs (b :: path).reverse ++ [(b, a)] := by rw [pairs_concat, List.reverse_cons]
      _ = ((pairs (b :: path)).map Prod.swap).reverse ++ [(b, a)] := by rw [pairs_reverse]
      _ = ((pairs (a :: b :: path)).map Prod.swap).reverse := (List.reverse_cons).symm

end Route

/-! ### Routes through pools -/

namespace PoolRoute

lemma WellFormed.reverse {protocol : Protocol} {pools : List Pool}
    (h : WellFormed protocol path pools) : WellFormed protocol path.reverse pools.reverse where
  pools_ne_nil := by simpa using h.pools_ne_nil
  length_path := by rw [List.length_reverse, List.length_reverse, h.length_path]
  protocol p hp := h.protocol p (List.mem_reverse.mp hp)
  oneChain := h.oneChain.reverse
  nativeAtEnds := h.nativeAtEnds.reverse
  hops i a b p ha hb hp := by
    obtain ⟨-, ha⟩ := Route.getElem?_of_reverse ha
    obtain ⟨hlt, hb⟩ := Route.getElem?_of_reverse hb
    obtain ⟨-, hp⟩ := Route.getElem?_of_reverse hp
    -- A hop is found as far from the other end, where it is entered from its other side.
    have hlen := h.length_path
    have hnext : path.length - 1 - i = path.length - 1 - (i + 1) + 1 := by omega
    have hpool : pools.length - 1 - i = path.length - 1 - (i + 1) := by omega
    rw [hnext] at ha
    rw [hpool] at hp
    obtain ⟨hne, hjoins⟩ := h.hops _ b a p hb ha hp
    exact ⟨Currency.wrapsTo_comm.trans hne, Pool.joins_comm.mp hjoins⟩

/-- The same pools, taken from the last to the first. -/
def reverse (r : PoolRoute) : PoolRoute where
  protocol := r.protocol
  path := r.path.reverse
  pools := r.pools.reverse
  sound := fault?_eq_none.mpr r.wellFormed.reverse

end PoolRoute

/-! ### Boosted routes -/

namespace BoostedRoute

variable {pools : List Pool} {steps : List Step}

lemma steps?_reverse (h : steps? path pools = .ok steps) :
    steps? path.reverse pools.reverse = .ok (steps.map Step.reverse).reverse := by
  obtain ⟨hlen, ⟨hchain, hnative⟩, hnodup, htaken, hpools⟩ := steps?_eq_ok.mp h
  have hback : List.Forall₂ (fun ab s => Step.Taken ab.1 ab.2 s)
      ((Route.pairs path).map Prod.swap) (steps.map Step.reverse) := by
    rw [List.forall₂_map_left_iff, List.forall₂_map_right_iff]
    exact htaken.imp fun _ _ h => h.reverse
  refine steps?_eq_ok.mpr ⟨?_, ⟨hchain.reverse, hnative.reverse⟩, ?_, ?_, ?_⟩
  · rwa [List.length_reverse]
  · rwa [List.map_reverse, List.nodup_reverse]
  · rw [Route.pairs_reverse]
    exact List.rel_reverse hback
  · rw [List.filterMap_reverse, List.filterMap_map, hpools]
    exact congrArg List.reverse (List.filterMap_congr fun s _ => (Step.pool?_reverse s).symm)

/-- **A path has a boosted route just where the reversed path has one, and the one undoes the steps
of the other in reverse order**: the deposits and the redemptions change places, and each swap leads
back through its pool. -/
theorem ofPath_reverse (path : List Currency) (pools : List Pool) :
    ((∃ r, ofPath path pools = .ok r) ↔ ∃ r, ofPath path.reverse pools.reverse = .ok r) ∧
      ∀ r r', ofPath path pools = .ok r → ofPath path.reverse pools.reverse = .ok r' →
        r'.steps = (r.steps.map Step.reverse).reverse := by
  have hforth {path : List Currency} {pools : List Pool} (h : ∃ r, ofPath path pools = .ok r) :
      ∃ r, ofPath path.reverse pools.reverse = .ok r := by
    obtain ⟨r, hr⟩ := h
    obtain ⟨-, -, hsteps⟩ := ofPath_eq_ok.mp hr
    exact ⟨_, ofPath_of_ok (steps?_reverse hsteps)⟩
  refine ⟨⟨hforth, fun h => ?_⟩, fun r r' hr hr' => ?_⟩
  · have hback := hforth h
    rwa [List.reverse_reverse, List.reverse_reverse] at hback
  · obtain ⟨-, -, hsteps⟩ := ofPath_eq_ok.mp hr
    obtain ⟨-, -, hsteps'⟩ := ofPath_eq_ok.mp hr'
    exact Except.ok.inj (hsteps'.symm.trans (steps?_reverse hsteps))

end BoostedRoute

end Reverse

namespace Route.Sample

/-- The deposit, the swap and the redemption of this path, taken from its end. -/
theorem redeemed_and_deposited : ∃ r, BoostedRoute.ofPath path.reverse [pool] = .ok r ∧
    r.steps = [.wrap (share 2), .swap (.vault (share 2)) (.vault (share 1)) pool,
      .unwrap (share 1)] := by
  have hsteps : BoostedRoute.steps? path [pool] = .ok [.wrap (share 1),
      .swap (.vault (share 1)) (.vault (share 2)) pool, .unwrap (share 2)] := by rfl
  obtain ⟨hexists, hreverse⟩ := BoostedRoute.ofPath_reverse path [pool]
  have hr := BoostedRoute.ofPath_of_ok hsteps
  obtain ⟨r', hr'⟩ := hexists.mp ⟨_, hr⟩
  exact ⟨r', hr', hreverse _ r' hr hr'⟩

end Route.Sample

end SwapPlan

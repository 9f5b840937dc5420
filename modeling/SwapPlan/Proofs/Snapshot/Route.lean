import SwapPlan.Proofs.Route.WellFormed

/-!
Descriptions of routes that tell the same of their tokens and pools but for a snapshot: how tokens
are shown, what pools hold and at which price, and which of its tokens a pool names first. A route
exists by the one just where it does by the other, and fails for the same reason.
-/

namespace SwapPlan

/-! ### Lists side by side -/

section

variable {α β γ δ : Type} {R : α → β → Prop} {S : γ → δ → Prop} {as : List α} {bs : List β}
  {cs : List γ} {ds : List δ}

lemma forall₂_zip (h : List.Forall₂ R as bs) (h' : List.Forall₂ S cs ds) :
    List.Forall₂ (fun x y => R x.1 y.1 ∧ S x.2 y.2) (as.zip cs) (bs.zip ds) := by
  induction h generalizing cs ds with
  | nil => exact .nil
  | cons hab _ ih =>
      cases h' with
      | nil => exact .nil
      | cons hcd h' => exact .cons ⟨hab, hcd⟩ (ih h')

/-- A search through numbered values finds the same where it looks at what is alike in them. -/
lemma findSome?_zipIdx_congr {f : α × Nat → Option γ} {g : β × Nat → Option γ}
    (h : List.Forall₂ R as bs) (k : Nat) (hfg : ∀ a b i, R a b → f (a, i) = g (b, i)) :
    (as.zipIdx k).findSome? f = (bs.zipIdx k).findSome? g := by
  induction h generalizing k with
  | nil => rfl
  | cons hab _ ih =>
      rw [List.zipIdx_cons, List.zipIdx_cons, List.findSome?_cons, List.findSome?_cons,
        hfg _ _ k hab, ih]

end

/-! ### Tokens and pools -/

/-- Tokens that differ at most in their decimals and their symbols. -/
def Token.Alike (t u : Token) : Prop := t.chainId = u.chainId ∧ t.address = u.address

structure Vault.Alike (v w : Vault) : Prop where
  token : v.token.Alike w.token
  underlying : v.underlying.Alike w.underlying

/-- Currencies of one kind over tokens that are alike. -/
inductive Currency.Alike : Currency → Currency → Prop
  | native {t u : Token} (chain : UInt64) (h : t.Alike u) : Alike (native chain t) (native chain u)
  | token {t u : Token} (h : t.Alike u) : Alike (token t) (token u)
  | vault {v w : Vault} (h : v.Alike w) : Alike (vault v) (vault w)

/-- Pools of one protocol, with the same fee tier or the same deployer. -/
inductive Pool.State.Alike : Pool.State → Pool.State → Prop
  | v2 (r s r' s' : Amount) : Alike (v2 r s) (v2 r' s')
  | v3 (fee : UInt32) (p p' : BitVec 160) (l l' : Amount) (t t' : Int32) :
    Alike (v3 fee p l t) (v3 fee p' l' t')
  | integral (deployer : Address) (fee fee' : UInt32) (p p' : BitVec 160) (l l' : Amount)
      (t t' : Int32) :
    Alike (integral deployer fee p l t) (integral deployer fee' p' l' t')

/-- Pools between the same currencies, in either order. -/
structure Pool.Alike (p q : Pool) : Prop where
  state : p.state.Alike q.state
  tokens : p.token0.Alike q.token0 ∧ p.token1.Alike q.token1 ∨
    p.token0.Alike q.token1 ∧ p.token1.Alike q.token0

inductive Step.Alike : Step → Step → Prop
  | wrap {v w : Vault} (h : v.Alike w) : Alike (wrap v) (wrap w)
  | unwrap {v w : Vault} (h : v.Alike w) : Alike (unwrap v) (unwrap w)
  | swap {a a' b b' : Currency} {p q : Pool} (ha : a.Alike a') (hb : b.Alike b') (hp : p.Alike q) :
    Alike (swap a b p) (swap a' b' q)

namespace Token

lemma same_congr {t t' u u' : Token} (ht : t.Alike t') (hu : u.Alike u') :
    t.same u = t'.same u' := by
  rw [same, same, ht.1, ht.2, hu.1, hu.2]

end Token

namespace Currency

variable {a a' b b' : Currency}

namespace Alike

lemma wrapped (h : a.Alike b) : a.wrapped.Alike b.wrapped := by
  cases h with
  | native _ h => exact h
  | token h => exact h
  | vault h => exact h.token

lemma address (h : a.Alike b) : a.address = b.address := h.wrapped.2

lemma chainId (h : a.Alike b) : a.chainId = b.chainId := by
  cases h with
  | native => rfl
  | token h => exact h.1
  | vault h => exact h.token.1

lemma asVault? (h : a.Alike b) : Option.Rel Vault.Alike a.asVault? b.asVault? := by
  cases h with
  | native => exact .none
  | token => exact .none
  | vault h => exact .some h

lemma isNative (h : a.Alike b) : a.isNative = b.isNative := by
  cases h <;> rfl

end Alike

lemma wrapsTo_congr (ha : a.Alike a') (hb : b.Alike b') : a.wrapsTo b = a'.wrapsTo b' :=
  Token.same_congr ha.wrapped hb.wrapped

lemma same_congr (ha : a.Alike a') (hb : b.Alike b') : a.same b = a'.same b' := by
  rcases ha with ⟨chain, h⟩ | ⟨h⟩ | ⟨h⟩ <;> rcases hb with ⟨chain', h'⟩ | ⟨h'⟩ | ⟨h'⟩ <;>
    first
    | rfl
    | simp only [same, Token.same_congr h h']
    | simp only [same, Vault.same, Token.same_congr h.token h'.token,
        Token.same_congr h.underlying h'.underlying]

end Currency

lemma Step.Alike.isSwap {s s' : Step} (h : s.Alike s') : s.isSwap = s'.isSwap := by
  cases h <;> rfl

/-- Currencies that are alike are related by a vault in the same way. -/
lemma Step.vaultStep?_congr {a a' b b' : Currency} (ha : a.Alike a') (hb : b.Alike b') :
    Option.Rel Alike (vaultStep? a b) (vaultStep? a' b') := by
  have hva := ha.asVault?
  have hvb := hb.asVault?
  unfold vaultStep?
  generalize a.asVault? = x, a'.asVault? = x' at hva
  generalize b.asVault? = y, b'.asVault? = y' at hvb
  rcases hva with ⟨hv⟩ | _ <;> rcases hvb with ⟨hw⟩ | _
  · exact .none
  · simp only [Token.same_congr hv.underlying hb.wrapped]
    split
    · exact .some (.unwrap hv)
    · exact .none
  · simp only [Token.same_congr hw.underlying ha.wrapped]
    split
    · exact .some (.wrap hw)
    · exact .none
  · exact .none

namespace Pool

variable {p q : Pool} {a a' b b' : Currency}

namespace Alike

lemma protocol (h : p.Alike q) : p.protocol = q.protocol := by
  obtain ⟨_, _, s⟩ := p
  obtain ⟨_, _, s'⟩ := q
  cases h.state <;> rfl

/-- It does not matter which of its currencies a pool names first. -/
lemma connects (h : p.Alike q) (ha : a.Alike a') (hb : b.Alike b')
    (hne : a.wrapsTo b = false) : p.connects a b = q.connects a' b' := by
  have hne' : a'.wrapsTo b' = false := by rwa [← Currency.wrapsTo_congr ha hb]
  rw [Bool.eq_iff_iff, connects_iff hne, connects_iff hne', Joins, Joins]
  rcases h.tokens with ⟨h0, h1⟩ | ⟨h0, h1⟩
  · rw [Currency.wrapsTo_congr h0 ha, Currency.wrapsTo_congr h1 hb,
      Currency.wrapsTo_congr h1 ha, Currency.wrapsTo_congr h0 hb]
  · rw [Currency.wrapsTo_congr h0 ha, Currency.wrapsTo_congr h1 hb,
      Currency.wrapsTo_congr h1 ha, Currency.wrapsTo_congr h0 hb, or_comm]

end Alike

end Pool

/-! ### Paths -/

namespace Route

variable {path path' : List Currency} {p q : Pool} {a a' b b' : Currency}

lemma hopFault?_congr (hp : p.Alike q) (ha : a.Alike a') (hb : b.Alike b') (hop : Nat) :
    hopFault? hop p a b = hopFault? hop q a' b' := by
  rw [hopFault?, hopFault?, Currency.wrapsTo_congr ha hb, ha.address, hb.address]
  cases hne : a'.wrapsTo b' with
  | true => rfl
  | false => rw [hp.connects ha hb (by rwa [Currency.wrapsTo_congr ha hb])]

lemma endpointFault?_congr (h : List.Forall₂ Currency.Alike path path') :
    endpointFault? path = endpointFault? path' := by
  have hchain : path.head?.map Currency.chainId = path'.head?.map Currency.chainId := by
    cases h with
    | nil => rfl
    | cons hc _ => exact congrArg some hc.chainId
  unfold endpointFault?
  rw [hchain, h.length_eq]
  refine findSome?_zipIdx_congr h 0 fun c c' i hc => ?_
  simp only [hc.chainId, hc.isNative]

lemma pairs_congr (h : List.Forall₂ Currency.Alike path path') :
    List.Forall₂ (fun x y => x.1.Alike y.1 ∧ x.2.Alike y.2) (pairs path) (pairs path') := by
  refine forall₂_zip h ?_
  cases h with
  | nil => exact .nil
  | cons _ h => exact h

end Route

/-! ### Routes through pools of one protocol -/

variable {path path' : List Currency} {pools pools' : List Pool}

namespace PoolRoute

/-- Routes of one protocol over currencies and pools that are alike. -/
structure Alike (r r' : PoolRoute) : Prop where
  protocol : r.protocol = r'.protocol
  path : List.Forall₂ Currency.Alike r.path r'.path
  pools : List.Forall₂ Pool.Alike r.pools r'.pools

lemma find?_foreign_congr (h : List.Forall₂ Pool.Alike pools pools') (protocol : Protocol) :
    (pools.find? fun p => p.protocol ≠ protocol).map Pool.protocol =
      (pools'.find? fun p => p.protocol ≠ protocol).map Pool.protocol := by
  induction h with
  | nil => rfl
  | cons hp _ ih =>
      rw [List.find?_cons, List.find?_cons, hp.protocol]
      split
      · exact congrArg some hp.protocol
      · exact ih

lemma fault?_congr (hpath : List.Forall₂ Currency.Alike path path')
    (hpools : List.Forall₂ Pool.Alike pools pools') (protocol : Protocol) :
    fault? protocol path pools = fault? protocol path' pools' := by
  have hnil : pools = [] ↔ pools' = [] := by
    cases hpools <;> simp
  have hforeign := find?_foreign_congr hpools protocol
  unfold fault?
  simp only [hnil, hpath.length_eq, hpools.length_eq, Route.endpointFault?_congr hpath]
  generalize pools.find? (fun p => p.protocol ≠ protocol) = x at hforeign
  generalize pools'.find? (fun p => p.protocol ≠ protocol) = y at hforeign
  split
  · rfl
  split
  · rfl
  rcases x with _ | p <;> rcases y with _ | q
  · exact congrArg (Option.or _) <|
      findSome?_zipIdx_congr (forall₂_zip (Route.pairs_congr hpath) hpools) 0
        fun _ _ hop h => Route.hopFault?_congr h.2 h.1.1 h.1.2 hop
  · cases hforeign
  · cases hforeign
  · simp only [Option.some.inj hforeign]

lemma ofPath_congr (hpath : List.Forall₂ Currency.Alike path path')
    (hpools : List.Forall₂ Pool.Alike pools pools') (protocol : Protocol) :
    Agree Alike (ofPath protocol path pools) (ofPath protocol path' pools') := by
  have hfault := fault?_congr hpath hpools protocol
  cases h : fault? protocol path pools with
  | some e =>
      rw [ofPath_of_some h, ofPath_of_some (hfault.symm.trans h)]
      exact .error e
  | none =>
      rw [ofPath_of_none h, ofPath_of_none (hfault.symm.trans h)]
      exact .ok ⟨rfl, hpath, hpools⟩

end PoolRoute

/-! ### Boosted routes -/

namespace BoostedRoute

structure Alike (r r' : BoostedRoute) : Prop where
  path : List.Forall₂ Currency.Alike r.path r'.path
  pools : List.Forall₂ Pool.Alike r.pools r'.pools
  steps : List.Forall₂ Step.Alike r.steps r'.steps

lemma revisited?_congr (h : List.Forall₂ Currency.Alike path path') (seen : List Address) :
    revisited? seen path = revisited? seen path' := by
  induction h generalizing seen with
  | nil => rfl
  | cons hc _ ih => rw [revisited?, revisited?, hc.address, ih]

/-- Steps that are alike, and pools that are left alike. -/
lemma walk_congr {pairs pairs' : List (Currency × Currency)}
    (h : List.Forall₂ (fun x y => x.1.Alike y.1 ∧ x.2.Alike y.2) pairs pairs')
    (hpools : List.Forall₂ Pool.Alike pools pools') (hop : Nat) :
    Agree (fun x y => List.Forall₂ Step.Alike x.1 y.1 ∧ List.Forall₂ Pool.Alike x.2 y.2)
      (walk hop pairs pools) (walk hop pairs' pools') := by
  induction h generalizing hop pools pools' with
  | nil => exact .ok ⟨.nil, hpools⟩
  | @cons x y pairs pairs' hxy _ ih =>
      obtain ⟨a, b⟩ := x
      obtain ⟨a', b'⟩ := y
      obtain ⟨ha, hb⟩ := hxy
      have hvault := Step.vaultStep?_congr ha hb
      unfold walk
      generalize Step.vaultStep? a b = s, Step.vaultStep? a' b' = s' at hvault
      -- both walks take a vault step here, or both take a pool, so their pools stay side by side
      cases hvault with
      | some hs =>
          refine (ih hpools (hop + 1)).bind fun x y hrest => ?_
          exact .ok ⟨.cons hs hrest.1, hrest.2⟩
      | none =>
          cases hpools with
          | nil => exact .error _
          | cons hp hpools =>
              simp only [Route.hopFault?_congr hp ha hb hop]
              split
              · exact .error _
              · refine (ih hpools (hop + 1)).bind fun x y hrest => ?_
                exact .ok ⟨.cons (.swap ha hb hp) hrest.1, hrest.2⟩

lemma countP_congr {steps steps' : List Step} (h : List.Forall₂ Step.Alike steps steps') :
    steps.countP Step.isSwap = steps'.countP Step.isSwap := by
  have hmap := congrArg (List.countP id) (map_congr_of_forall₂ h fun _ _ hs => hs.isSwap)
  rwa [List.countP_map, List.countP_map] at hmap

lemma steps?_congr (hpath : List.Forall₂ Currency.Alike path path')
    (hpools : List.Forall₂ Pool.Alike pools pools') :
    Agree (List.Forall₂ Step.Alike) (steps? path pools) (steps? path' pools') := by
  unfold steps?
  rw [hpath.length_eq, Route.endpointFault?_congr hpath, revisited?_congr hpath]
  split
  · exact .error _
  · split
    · exact .error _
    · split
      · exact .error _
      · refine (walk_congr (Route.pairs_congr hpath) hpools 0).bind ?_
        rintro ⟨steps, left⟩ ⟨steps', left'⟩ ⟨hsteps, hleft⟩
        have hcount := countP_congr hsteps
        cases hleft with
        | nil => exact .ok hsteps
        | cons hp hleft =>
            simp only [reduceCtorEq, if_false, hcount, hpools.length_eq]
            exact .error _

lemma ofPath_congr (hpath : List.Forall₂ Currency.Alike path path')
    (hpools : List.Forall₂ Pool.Alike pools pools') :
    Agree Alike (ofPath path pools) (ofPath path' pools') := by
  have hsteps := steps?_congr hpath hpools
  cases h : steps? path pools <;> cases h' : steps? path' pools' <;> rw [h, h'] at hsteps
  · cases hsteps
    rw [ofPath_of_error h, ofPath_of_error h']
    exact .error _
  · cases hsteps
  · cases hsteps
  · cases hsteps with
    | ok hsteps =>
        rw [ofPath_of_ok h, ofPath_of_ok h']
        exact .ok ⟨hpath, hpools, hsteps⟩

end BoostedRoute

/-! ### Routes of either kind -/

namespace Route

inductive Alike : Route → Route → Prop
  | pooled {r r' : PoolRoute} (h : r.Alike r') : Alike (pooled r) (pooled r')
  | boosted {r r' : BoostedRoute} (h : r.Alike r') : Alike (boosted r) (boosted r')

lemma ofPath_congr (hpath : List.Forall₂ Currency.Alike path path')
    (hpools : List.Forall₂ Pool.Alike pools pools') (family : Family) :
    Agree Alike (ofPath family path pools) (ofPath family path' pools') := by
  cases family with
  | pooled protocol =>
      exact (PoolRoute.ofPath_congr hpath hpools protocol).bind fun _ _ h => .ok (.pooled h)
  | boosted => exact (BoostedRoute.ofPath_congr hpath hpools).bind fun _ _ h => .ok (.boosted h)

lemma head_alike (h : List.Forall₂ Currency.Alike path path') (hne : path ≠ [])
    (hne' : path' ≠ []) : (path.head hne).Alike (path'.head hne') := by
  cases h with
  | nil => exact absurd rfl hne
  | cons hc _ => exact hc

lemma getLast_alike (h : List.Forall₂ Currency.Alike path path') (hne : path ≠ [])
    (hne' : path' ≠ []) : (path.getLast hne).Alike (path'.getLast hne') := by
  rw [List.getLast_eq_head_reverse, List.getLast_eq_head_reverse]
  exact head_alike (List.forall₂_reverse_iff.mpr h) _ _

namespace Alike

variable {r r' : Route}

lemma input (h : r.Alike r') : r.input.Alike r'.input := by
  cases h with
  | pooled h => exact head_alike h.path _ _
  | boosted h => exact head_alike h.path _ _

lemma output (h : r.Alike r') : r.output.Alike r'.output := by
  cases h with
  | pooled h => exact getLast_alike h.path _ _
  | boosted h => exact getLast_alike h.path _ _

end Alike

end Route

end SwapPlan

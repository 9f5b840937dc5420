import SwapPlan.Proofs.Route.WellFormed
import Mathlib.Data.List.Duplicate

/-!
The canonical route between two currencies. Where a pool supports their conversion, it carries it
over one path: from each end that it does not hold itself by way of its own vault over that end. The
path has a route unless a currency is on another chain, or a token comes twice.
-/

namespace SwapPlan

/-! ### Kinds of steps -/

inductive Step.Kind
  | wrap | unwrap | swap
deriving DecidableEq

def Step.kind : Step → Kind
  | wrap _ => .wrap
  | unwrap _ => .unwrap
  | swap .. => .swap

/-- The kinds of the steps that a conversion takes, through a pool that holds both ends itself or
does not. -/
def Conversion.kinds (direct : Bool) : Conversion → List Step.Kind
  | wrapOnly => [.wrap]
  | unwrapOnly => [.unwrap]
  | underlyingToUnderlying => if direct then [.swap] else [.wrap, .swap, .unwrap]
  | underlyingToBoosted => [.wrap, .swap]
  | boostedToUnderlying => [.swap, .unwrap]
  | boostedToBoosted => [.swap]

section SinglePool

variable {p : Pool} {a b c : Currency} {path : List Currency} {pools : List Pool} {steps : List Step}

/-! ### What a pool holds -/

namespace Pool

/-- The shares of a vault are one of the two currencies of a pool. -/
def Owns (p : Pool) (w : Vault) : Prop := p.token0 = .vault w ∨ p.token1 = .vault w

lemma Owns.involves {w : Vault} (h : p.Owns w) : p.involves (.vault w) = true := by
  rcases h with h | h <;> simp [Pool.involves, h, Currency.wrapsTo, Token.same]

/-- Two different currencies that a pool holds are its two sides. -/
lemma joins_of_involves (ha : p.involves a = true) (hb : p.involves b = true)
    (hne : a.wrapsTo b = false) : p.Joins a b := by
  have hone {c : Currency} (ha : c.wrapsTo a = true) (hb : c.wrapsTo b = true) : False := by
    simp only [Currency.wrapsTo, Token.same, decide_eq_true_eq, decide_eq_false_iff_not] at ha hb hne
    exact hne ⟨ha.1.symm.trans hb.1, ha.2.symm.trans hb.2⟩
  simp only [involves, Bool.or_eq_true] at ha hb
  rcases ha with ha | ha <;> rcases hb with hb | hb
  · exact (hone ha hb).elim
  · exact .inl ⟨ha, hb⟩
  · exact .inr ⟨ha, hb⟩
  · exact (hone ha hb).elim

/-- A vault over a currency is found where there is one, and is the pool's own. -/
lemma exists_vaultOver? (h : p.holdsVaultOver c = true) : ∃ w, p.vaultOver? c = some (.vault w) ∧
    w.underlying.same c.wrapped = true ∧ p.Owns w := by
  have hsome : ([p.token0, p.token1].find? fun t => t.isVaultOver c).isSome = true := by
    simpa [holdsVaultOver] using h
  obtain ⟨v, hv⟩ := Option.isSome_iff_exists.mp hsome
  have hover := List.find?_some hv
  have hmem := List.mem_of_find?_eq_some hv
  cases v with
  | vault w =>
      refine ⟨w, hv, by simpa [Currency.isVaultOver, Currency.asVault?] using hover, ?_⟩
      simpa [Owns, eq_comm] using hmem
  | native => simp [Currency.isVaultOver, Currency.asVault?] at hover
  | token => simp [Currency.isVaultOver, Currency.asVault?] at hover

/-- The path over which a pool carries a conversion, with the steps along it. An end that the pool
does not hold, or not as the other end asks for, is left or reached by way of a vault of its own. -/
inductive Carries (p : Pool) (a b : Currency) : List Currency → List Step → Prop
  | straight (ha : p.involves a = true) (hb : p.involves b = true) (hpair : a.vaultPair b = false) :
      Carries p a b [a, b] [.swap a b p]
  | deposited {w : Vault} (ha : a.vaultPair (.vault w) = true) (hw : p.Owns w)
      (hb : p.involves b = true) (hpair : (Currency.vault w).vaultPair b = false) :
      Carries p a b [a, .vault w, b] [.wrap w, .swap (.vault w) b p]
  | redeemed {w : Vault} (ha : p.involves a = true) (hpair : a.vaultPair (.vault w) = false)
      (hw : p.Owns w) (hb : (Currency.vault w).vaultPair b = true) :
      Carries p a b [a, .vault w, b] [.swap a (.vault w) p, .unwrap w]
  | both {v w : Vault} (ha : a.vaultPair (.vault v) = true) (hv : p.Owns v) (hw : p.Owns w)
      (hb : (Currency.vault w).vaultPair b = true) :
      Carries p a b [a, .vault v, .vault w, b]
        [.wrap v, .swap (.vault v) (.vault w) p, .unwrap w]

end Pool

namespace Currency

lemma vaultPair_of_asVault? (h : a.asVault?.isSome = b.asVault?.isSome) :
    a.vaultPair b = false := by
  simp [vaultPair, h]

end Currency

/-! ### Faults of a path that its pools serve -/

namespace Route

lemma nativeAtEnds_of_mid (mid : List Currency) (h : ∀ c ∈ mid, c.isNative = false) :
    NativeAtEnds (a :: (mid ++ [b])) := by
  intro i c hi hnative
  rcases i with _ | i
  · exact .inl rfl
  · rw [List.getElem?_cons_succ] at hi
    by_cases hlt : i < mid.length
    · rw [List.getElem?_append_left hlt] at hi
      rw [h c (List.mem_of_getElem? hi)] at hnative
      cases hnative
    · have := (List.getElem?_eq_some_iff.mp hi).1
      simp only [List.length_append, List.length_cons, List.length_nil] at this ⊢
      omega

/-- Without a native currency between its ends, just chains are at fault in a path. -/
lemma otherChain_of_endpointFault? {e : Error} (h : endpointFault? path = some e)
    (hnative : NativeAtEnds path) : ∃ i c, e = .otherChain i ∧ path[i]? = some c ∧
      ∃ d ∈ path.head?, c.chainId ≠ d.chainId := by
  obtain ⟨⟨c, i⟩, hmem, hc⟩ := List.exists_of_findSome?_eq_some h
  have hi := List.mem_zipIdx_iff_getElem?.mp hmem
  dsimp only at hc hi
  split_ifs at hc with hchain hinside
  · refine ⟨i, c, (Option.some.inj hc).symm, hi, ?_⟩
    rcases path with _ | ⟨d, path⟩
    · simp at hi
    · exact ⟨d, rfl, hchain⟩
  · have hends := hnative i c hi hinside.1
    omega

end Route

namespace Conversion

lemma of_eq_wrapOnly : of a b = wrapOnly ↔ a.vaultPair b = true ∧ ∃ w, b = .vault w := by
  cases a <;> cases b <;>
    simp [of, Currency.vaultPair, Currency.isVaultOver, Currency.asVault?] <;> split_ifs <;> simp

lemma of_eq_unwrapOnly : of a b = unwrapOnly ↔ a.vaultPair b = true ∧ ∃ w, a = .vault w := by
  cases a <;> cases b <;>
    simp [of, Currency.vaultPair, Currency.isVaultOver, Currency.asVault?] <;> split_ifs <;> simp

/-- Which ends of a conversion are vault shares. -/
lemma asVault?_of (a b : Currency) :
    match of a b with
    | wrapOnly | underlyingToBoosted => a.asVault? = none ∧ ∃ w, b = .vault w
    | unwrapOnly | boostedToUnderlying => (∃ w, a = .vault w) ∧ b.asVault? = none
    | underlyingToUnderlying => a.asVault? = none ∧ b.asVault? = none
    | boostedToBoosted => (∃ w, a = .vault w) ∧ ∃ w, b = .vault w := by
  cases a <;> cases b <;> simp [of, Currency.asVault?] <;> split_ifs <;> simp

end Conversion

namespace BoostedRoute

open Step (Taken)

lemma duplicate_of_revisited? {seen : List Address} {t : Address}
    (h : revisited? seen path = some t) :
    t ∈ path.map Currency.address ∧ (t ∈ seen ∨ (path.map Currency.address).Duplicate t) := by
  induction path generalizing seen with
  | nil => cases h
  | cons c path ih =>
      rw [revisited?] at h
      split_ifs at h with hc
      · obtain rfl := Option.some.inj h
        exact ⟨List.mem_cons_self, .inl hc⟩
      · obtain ⟨hmem, hseen | hdup⟩ := ih h
        · refine ⟨List.mem_cons_of_mem _ hmem, ?_⟩
          rcases List.mem_cons.mp hseen with rfl | hseen
          · exact .inr (.cons_mem hmem)
          · exact .inl hseen
        · exact ⟨List.mem_cons_of_mem _ hmem, .inr (.cons_duplicate hdup)⟩

/-- What comes of a path that its pools serve: the route with its steps, unless a currency is on
another chain than the first, or a token comes twice. -/
inductive Built (path : List Currency) (pools : List Pool) (steps : List Step) :
    Except Error BoostedRoute → Prop
  | route {r : BoostedRoute} (hchain : Route.OnOneChain path)
      (hnodup : (path.map Currency.address).Nodup) (hpath : r.path = path)
      (hpools : r.pools = pools) (hsteps : r.steps = steps) : Built path pools steps (.ok r)
  | otherChain {i : Nat} {c : Currency} (hi : path[i]? = some c)
      (hchain : ∃ d ∈ path.head?, c.chainId ≠ d.chainId) :
      Built path pools steps (.error (.otherChain i))
  | visitedTwice {t : Address} (ht : (path.map Currency.address).Duplicate t) :
      Built path pools steps (.error (.visitedTwice t))

lemma built_ofPath (hlen : 2 ≤ path.length) (hnative : Route.NativeAtEnds path)
    (htaken : (path.map Currency.address).Nodup →
      List.Forall₂ (fun ab s => Taken ab.1 ab.2 s) (Route.pairs path) steps)
    (hpools : pools = steps.filterMap Step.pool?) :
    Built path pools steps (ofPath path pools) := by
  have hshort : ¬ path.length < 2 := by omega
  cases hfault : Route.endpointFault? path with
  | some e =>
      obtain ⟨i, c, rfl, hi, hchain⟩ := Route.otherChain_of_endpointFault? hfault hnative
      rw [ofPath_of_error (by rw [steps?, if_neg hshort, hfault])]
      exact .otherChain hi hchain
  | none =>
      cases hseen : revisited? [] path with
      | some t =>
          obtain ⟨-, hnil | ht⟩ := duplicate_of_revisited? hseen
          · cases hnil
          · rw [ofPath_of_error (by rw [steps?, if_neg hshort, hfault, hseen])]
            exact .visitedTwice ht
      | none =>
          have hends := Route.endpointFault?_eq_none.mp hfault
          have hnodup := (revisited?_eq_none.mp hseen).1
          rw [ofPath_of_ok (steps?_eq_ok.mpr ⟨hlen, hends, hnodup, htaken hnodup, hpools⟩)]
          exact .route hends.1 hnodup rfl rfl rfl

/-! ### A conversion over its path -/

/-- A pool that holds two neighbours on a path carries the swap between them. -/
lemma taken_swap (hnodup : (path.map Currency.address).Nodup) (hab : (a, b) ∈ Route.pairs path)
    (ha : p.involves a = true) (hb : p.involves b = true) (hpair : a.vaultPair b = false) :
    Taken a b (.swap a b p) :=
  have hne := wrapsTo_of_mem_pairs hnodup hab
  .swap hpair hne (Pool.joins_of_involves ha hb hne)

lemma built_of_carries (h : p.Carries a b path steps) :
    Built path [p] steps (ofPath path [p]) := by
  cases h with
  | straight ha hb hpair =>
      refine built_ofPath (by simp) (Route.nativeAtEnds_of_mid [] (by simp))
        (fun hnodup => ?_) rfl
      exact .cons (taken_swap hnodup (by simp [Route.pairs]) ha hb hpair) .nil
  | @deposited w ha hw hb hpair =>
      refine built_ofPath (by simp) (Route.nativeAtEnds_of_mid [.vault w]
        (by simp [Currency.isNative])) (fun hnodup => ?_) rfl
      exact .cons (.wrap ha rfl)
        (.cons (taken_swap hnodup (by simp [Route.pairs]) hw.involves hb hpair) .nil)
  | @redeemed w ha hpair hw hb =>
      refine built_ofPath (by simp) (Route.nativeAtEnds_of_mid [.vault w]
        (by simp [Currency.isNative])) (fun hnodup => ?_) rfl
      exact .cons (taken_swap hnodup (by simp [Route.pairs]) ha hw.involves hpair)
        (.cons (.unwrap hb rfl) .nil)
  | @both v w ha hv hw hb =>
      refine built_ofPath (by simp) (Route.nativeAtEnds_of_mid [.vault v, .vault w]
        (by simp [Currency.isNative])) (fun hnodup => ?_) rfl
      exact .cons (.wrap ha rfl) (.cons (taken_swap hnodup (by simp [Route.pairs]) hv.involves
        hw.involves (Currency.vaultPair_of_asVault? rfl)) (.cons (.unwrap hb rfl) .nil))

lemma carries_of_supports (h : p.supports a b (.of a b) = true) :
    ∃ path steps, singlePoolPath a b p (.of a b) = .ok path ∧ p.Carries a b path steps ∧
      steps.map Step.kind = (Conversion.of a b).kinds (p.involves a && p.involves b) := by
  have hends := Conversion.asVault?_of a b
  cases hconversion : Conversion.of a b with
  | wrapOnly => simp [hconversion, Pool.supports] at h
  | unwrapOnly => simp [hconversion, Pool.supports] at h
  | boostedToBoosted =>
      simp only [hconversion, Pool.supports, Bool.and_eq_true] at h hends
      obtain ⟨⟨v, rfl⟩, w, rfl⟩ := hends
      exact ⟨_, _, rfl, .straight h.1 h.2 (Currency.vaultPair_of_asVault? rfl), rfl⟩
  | underlyingToBoosted =>
      simp only [hconversion, Pool.supports, Bool.and_eq_true] at h hends
      obtain ⟨w, hw, hover, howns⟩ := Pool.exists_vaultOver? h.1
      obtain ⟨ha, v, rfl⟩ := hends
      refine ⟨_, _, ?_, .deposited (Currency.vaultPair_vault_right.mpr ⟨ha, hover⟩) howns h.2
        (Currency.vaultPair_of_asVault? rfl), rfl⟩
      simp only [singlePoolPath, singlePoolPath.vaultOver, hw]
      rfl
  | boostedToUnderlying =>
      simp only [hconversion, Pool.supports, Bool.and_eq_true] at h hends
      obtain ⟨w, hw, hover, howns⟩ := Pool.exists_vaultOver? h.2
      obtain ⟨⟨v, rfl⟩, hb⟩ := hends
      refine ⟨_, _, ?_, .redeemed (w := w) h.1 (Currency.vaultPair_of_asVault? rfl) howns
        (Currency.vaultPair_vault_left.mpr ⟨hb, hover⟩), rfl⟩
      simp only [singlePoolPath, singlePoolPath.vaultOver, hw]
      rfl
  | underlyingToUnderlying =>
      simp only [hconversion, Pool.supports] at h hends
      obtain ⟨ha, hb⟩ := hends
      cases hdirect : p.involves a && p.involves b with
      | true =>
          have hboth := Bool.and_eq_true_iff.mp hdirect
          refine ⟨_, _, ?_, .straight hboth.1 hboth.2
            (Currency.vaultPair_of_asVault? (by rw [ha, hb])), rfl⟩
          exact if_pos hdirect
      | false =>
          rw [hdirect, Bool.false_or, Bool.and_eq_true] at h
          obtain ⟨v, hv, hvover, hvowns⟩ := Pool.exists_vaultOver? h.1
          obtain ⟨w, hw, hwover, hwowns⟩ := Pool.exists_vaultOver? h.2
          refine ⟨_, _, ?_, .both (Currency.vaultPair_vault_right.mpr ⟨ha, hvover⟩) hvowns hwowns
            (Currency.vaultPair_vault_left.mpr ⟨hb, hwover⟩), rfl⟩
          simp only [singlePoolPath, singlePoolPath.vaultOver, hdirect, hv, hw]
          rfl

lemma singlePool_of_supports (h : p.supports a b (.of a b) = true) :
    ∃ path steps, p.Carries a b path steps ∧ Built path [p] steps (singlePool a b (some p)) ∧
      steps.map Step.kind = (Conversion.of a b).kinds (p.involves a && p.involves b) := by
  obtain ⟨path, steps, hpath, hcarries, hkinds⟩ := carries_of_supports h
  refine ⟨path, steps, hcarries, ?_, hkinds⟩
  have hroute : singlePool a b (some p) = ofPath path [p] := by
    rw [singlePool, if_pos h, hpath]
    rfl
  rw [hroute]
  exact built_of_carries hcarries

lemma singlePool_of_not_supports (h : p.supports a b (.of a b) = false) :
    singlePool a b (some p) = .error (.cannotRealize (.of a b)) := by
  rw [singlePool, if_neg (by simp [h])]

/-- Without a pool just a deposit and a redemption can be made, of the one vault at hand. -/
lemma singlePool_none (h : Conversion.of a b ∈ [.wrapOnly, .unwrapOnly]) :
    ∃ s, a.vaultPair b = true ∧ Built [a, b] [] [s] (singlePool a b none) ∧
      ∀ direct, [s.kind] = (Conversion.of a b).kinds direct := by
  have hbuilt {s : Step} (hs : Taken a b s) (hpool : s.pool? = none) :
      Built [a, b] [] [s] (ofPath [a, b] []) :=
    built_ofPath (by simp) (Route.nativeAtEnds_of_mid [] (by simp))
      (fun _ => .cons hs .nil) (by simp [hpool])
  simp only [List.mem_cons, List.not_mem_nil, or_false] at h
  rcases h with h | h
  · obtain ⟨hpair, w, rfl⟩ := Conversion.of_eq_wrapOnly.mp h
    rw [singlePool, h]
    exact ⟨.wrap w, hpair, hbuilt (.wrap hpair rfl) rfl, fun _ => rfl⟩
  · obtain ⟨hpair, w, rfl⟩ := Conversion.of_eq_unwrapOnly.mp h
    rw [singlePool, h]
    exact ⟨.unwrap w, hpair, hbuilt (.unwrap hpair rfl) rfl, fun _ => rfl⟩

lemma singlePool_none_of_swap (h : Conversion.of a b ∉ [.wrapOnly, .unwrapOnly]) :
    singlePool a b none = .error (.poolRequired (.of a b)) := by
  simp only [List.mem_cons, List.not_mem_nil, or_false, not_or] at h
  unfold singlePool
  dsimp only
  split
  · rename_i hof
    exact absurd hof h.1
  · rename_i hof
    exact absurd hof h.2
  · rfl

lemma ends_of_path {r : BoostedRoute} (mid : List Currency) (h : r.path = a :: (mid ++ [b])) :
    r.input = a ∧ r.output = b := by
  simp only [input, output, h]
  simp

lemma ends_of_carries {r : BoostedRoute} (h : p.Carries a b path steps) (hr : r.path = path) :
    r.input = a ∧ r.output = b := by
  cases h with
  | straight => exact ends_of_path [] hr
  | @deposited w => exact ends_of_path [.vault w] hr
  | @redeemed w => exact ends_of_path [.vault w] hr
  | @both v w => exact ends_of_path [.vault v, .vault w] hr

lemma of_singlePool {pool : Option Pool} {r : BoostedRoute} (h : singlePool a b pool = .ok r) :
    (r.input = a ∧ r.output = b) ∧ r.pools = pool.toList ∧ r.steps.map Step.kind =
      (Conversion.of a b).kinds (pool.any fun p => p.involves a && p.involves b) := by
  cases pool with
  | none =>
      by_cases hvault : Conversion.of a b ∈ [.wrapOnly, .unwrapOnly]
      · obtain ⟨s, -, hbuilt, hkind⟩ := singlePool_none hvault
        rw [h] at hbuilt
        cases hbuilt with
        | route _ _ hpath hpools hsteps =>
            exact ⟨ends_of_path [] hpath, hpools, by rw [hsteps]; exact hkind _⟩
      · rw [singlePool_none_of_swap hvault] at h
        cases h
  | some p =>
      cases hp : p.supports a b (.of a b) with
      | true =>
          obtain ⟨path, steps, hcarries, hbuilt, hkinds⟩ := singlePool_of_supports hp
          rw [h] at hbuilt
          cases hbuilt with
          | route _ _ hpath hpools hsteps =>
              exact ⟨ends_of_carries hcarries hpath, hpools, by rw [hsteps]; exact hkinds⟩
      | false =>
          rw [singlePool_of_not_supports hp] at h
          cases h

/-- **The canonical route between two currencies.** It leads from the one to the other through just
the given pool, over the steps of their conversion. A pool that supports the conversion carries it
over a path that has a route, unless a currency is on another chain or a token comes twice; without
a pool the same holds of a deposit and of a redemption. Where a pool does not support the
conversion, is missing or is too much, the route is not supported. -/
theorem singlePool_canonical (a b : Currency) :
    (∀ pool r, singlePool a b pool = .ok r → (r.input = a ∧ r.output = b) ∧
      r.pools = pool.toList ∧ r.steps.map Step.kind =
        (Conversion.of a b).kinds (pool.any fun p => p.involves a && p.involves b)) ∧
    (∀ p : Pool, p.supports a b (.of a b) = true → ∃ path steps, p.Carries a b path steps ∧
      Built path [p] steps (singlePool a b (some p))) ∧
    (∀ p : Pool, p.supports a b (.of a b) = false → ∃ e, singlePool a b (some p) = .error e ∧
      e.kind = .unsupportedRoute) ∧
    (Conversion.of a b ∉ [.wrapOnly, .unwrapOnly] → ∃ e, singlePool a b none = .error e ∧
      e.kind = .unsupportedRoute) ∧
    (Conversion.of a b ∈ [.wrapOnly, .unwrapOnly] →
      (∃ s, a.vaultPair b = true ∧ Built [a, b] [] [s] (singlePool a b none)) ∧
        ∀ p, ∃ e, singlePool a b (some p) = .error e ∧ e.kind = .unsupportedRoute) := by
  refine ⟨fun pool r => of_singlePool, fun p hp => ?_,
    fun p hp => ⟨_, singlePool_of_not_supports hp, rfl⟩,
    fun h => ⟨_, singlePool_none_of_swap h, rfl⟩, fun h => ⟨?_, fun p => ?_⟩⟩
  · obtain ⟨path, steps, hcarries, hbuilt, -⟩ := singlePool_of_supports hp
    exact ⟨path, steps, hcarries, hbuilt⟩
  · obtain ⟨s, hpair, hbuilt, -⟩ := singlePool_none h
    exact ⟨s, hpair, hbuilt⟩
  · have hp : p.supports a b (.of a b) = false := by
      simp only [List.mem_cons, List.not_mem_nil, or_false] at h
      rcases h with h | h <;> rw [h] <;> rfl
    exact ⟨_, singlePool_of_not_supports hp, rfl⟩

end BoostedRoute

end SinglePool

/-! ### Between two vaults of one pool -/

namespace Route.Sample

open BoostedRoute

/-- The native currency reaches the other token by way of both vaults, and its own vault without a
pool. A pool of shares cannot take it to a third token. -/
theorem canonical_by_vaults :
    (∃ r, singlePool (.native 1 (token 1)) (.token (token 2)) (some pool) = .ok r ∧
      (r.input = .native 1 (token 1) ∧ r.output = .token (token 2)) ∧ r.pools = [pool] ∧
      r.steps.map Step.kind = [.wrap, .swap, .unwrap]) ∧
    (∃ path steps, pool.Carries (.native 1 (token 1)) (.token (token 2)) path steps ∧
      Built path [pool] steps
        (singlePool (.native 1 (token 1)) (.token (token 2)) (some pool))) ∧
    (∃ e, singlePool (.native 1 (token 1)) (.token (token 3)) (some pool) = .error e ∧
      e.kind = .unsupportedRoute) ∧
    (∃ e, singlePool (.native 1 (token 1)) (.token (token 2)) none = .error e ∧
      e.kind = .unsupportedRoute) ∧
    ∃ s, (Currency.native 1 (token 1)).vaultPair (.vault (share 1)) = true ∧
      Built [.native 1 (token 1), .vault (share 1)] [] [s]
        (singlePool (.native 1 (token 1)) (.vault (share 1)) none) := by
  obtain ⟨hroute, hsupports, -, hmissing, -⟩ :=
    singlePool_canonical (.native 1 (token 1)) (.token (token 2))
  obtain ⟨-, -, hrefused, -⟩ := singlePool_canonical (.native 1 (token 1)) (.token (token 3))
  obtain ⟨-, -, -, -, hvault⟩ := singlePool_canonical (.native 1 (token 1)) (.vault (share 1))
  have hsteps : steps? path [pool] = .ok [.wrap (share 1),
      .swap (.vault (share 1)) (.vault (share 2)) pool, .unwrap (share 2)] := by rfl
  have hr : singlePool (.native 1 (token 1)) (.token (token 2)) (some pool) = .ok _ :=
    ofPath_of_ok hsteps
  exact ⟨⟨_, hr, hroute _ _ hr⟩, hsupports pool (by decide), hrefused pool (by decide),
    hmissing (by decide), (hvault (by decide)).1⟩

end Route.Sample

end SwapPlan

import SwapPlan.Proofs.Encode.Plannable
import SwapPlan.Proofs.Path.Hops
import SwapPlan.Proofs.Route.Reversal

/-!
Routes through pools of one protocol, as commands. Such a route is one swap over its whole path. A
list of addresses is written from the input in both directions, a packed path from the side that
the interpreter starts at, so that a fixed output is bought over the bytes that sell a fixed input
along the reversed route.
-/

namespace SwapPlan

/-- The opcode of a swap through pools of a protocol. -/
def Protocol.swapOpcode : Protocol → TradeType → Opcode
  | .v2, .exactInput => .v2SwapExactIn
  | .v2, .exactOutput => .v2SwapExactOut
  | .v3, .exactInput => .v3SwapExactIn
  | .v3, .exactOutput => .v3SwapExactOut
  | .integral, .exactInput => .integralSwapExactIn
  | .integral, .exactOutput => .integralSwapExactOut

/-- The swap that terms ask for over a path: it spends just the input for the output at least, or
buys just the output for the input at most. -/
def RouteTerms.swap (t : RouteTerms) (path : SwapPath) : Command :=
  match t.tradeType with
  | .exactInput => .swap .exactInput path t.recipient t.amountIn t.amountOut
  | .exactOutput => .swap .exactOutput path t.recipient t.amountOut t.amountIn

/-- A packed path from the side at which a swap starts. -/
def Path.Packed.directed {ι : Type} (p : Packed ι) : TradeType → Packed ι
  | .exactInput => p
  | .exactOutput => p.reverse

namespace SwapPath

open SwapPlan.Path (Packed IdentFormat)

variable {r : PoolRoute} {side : TradeType} {path : SwapPath} {pools : List Pool}

/-- The path of a swap through the pools of a route. -/
inductive Spells (r : PoolRoute) (side : TradeType) : SwapPath → Prop
  | addresses (hprotocol : r.protocol = .v2) :
      Spells r side (.addresses (r.path.map Currency.address))
  | fees {bs : Bytes} (hprotocol : r.protocol = .v3)
      (hread : Packed.decode .fee bs =
        .ok (Packed.directed ⟨r.path.map Currency.address, r.pools.map Pool.fee⟩ side)) :
      Spells r side (.fees bs)
  | deployers {bs : Bytes} {deployers : List Address} (hprotocol : r.protocol = .integral)
      (hdeployers : r.pools.map Pool.deployer? = deployers.map some)
      (hread : Packed.decode .deployer bs =
        .ok (Packed.directed ⟨r.path.map Currency.address, deployers⟩ side)) :
      Spells r side (.deployers bs)

/-! ### Identifiers along a route -/

lemma map_deployer? {deployers : List Address} (h : pools.mapM poolDeployer = .ok deployers) :
    pools.map Pool.deployer? = deployers.map some :=
  map_congr_of_forall₂ (mapM_eq_ok.mp h) fun _ _ h => poolDeployer_eq_ok.mp h

/-! ### Whole paths -/

lemma pack_eq_encode {ι : Type} {f : IdentFormat ι} {p : Packed ι} :
    pack f p side = (p.directed side).encode f := by
  cases side <;> rfl

lemma spells_of_ofRoute (h : ofRoute r side = .ok path) : path.Spells r side := by
  unfold ofRoute at h
  cases hprotocol : r.protocol with
  | v2 =>
      rw [hprotocol] at h
      obtain rfl := Except.ok.inj h
      exact .addresses hprotocol
  | v3 =>
      have hfees := mapM_poolFee fun p hp => (r.wellFormed.protocol p hp).trans hprotocol
      simp only [through, hprotocol, hfees, pack_eq_encode, bind_eq_ok, pure_eq_ok,
        Except.ok.injEq, exists_eq_left'] at h
      obtain ⟨bs, hbs, rfl⟩ := h
      exact .fees hprotocol ((Packed.encode_iff_decode Path.IdentFormat.fee_exact).mp hbs)
  | integral =>
      simp only [through, hprotocol, pack_eq_encode, bind_eq_ok, pure_eq_ok] at h
      obtain ⟨deployers, hdeployers, bs, hbs, rfl⟩ := h
      exact .deployers hprotocol (map_deployer? hdeployers)
        ((Packed.encode_iff_decode Path.IdentFormat.deployer_exact).mp hbs)

/-- Taken from its end, a packed path sells along the reversed route. -/
lemma ofRoute_reverse (h : r.protocol ≠ .v2) :
    ofRoute r.reverse .exactInput = ofRoute r .exactOutput := by
  have hback {ι : Type} {ident : Pool → Except Error ι} {idents : List ι}
      (h : r.pools.mapM ident = .ok idents) : r.pools.reverse.mapM ident = .ok idents.reverse :=
    mapM_eq_ok.mpr (List.rel_reverse (mapM_eq_ok.mp h))
  simp only [ofRoute, PoolRoute.reverse]
  cases hprotocol : r.protocol with
  | v2 => exact absurd hprotocol h
  | v3 =>
      have hfees := mapM_poolFee fun p hp => (r.wellFormed.protocol p hp).trans hprotocol
      simp only [through, hfees, hback hfees, List.map_reverse]
      rfl
  | integral =>
      obtain ⟨deployers, hdeployers⟩ := exists_mapM.mpr fun p hp =>
        exists_poolDeployer ((r.wellFormed.protocol p hp).trans hprotocol)
      simp only [through, hdeployers, hback hdeployers, List.map_reverse]
      rfl

end SwapPath

/-! ### The command of a route -/

lemma RouteTerms.opcode_swap {r : PoolRoute} {t : RouteTerms} {path : SwapPath}
    (h : path.Spells r t.tradeType) : (t.swap path).opcode = r.protocol.swapOpcode t.tradeType := by
  unfold swap
  cases h with
  | addresses hprotocol | fees hprotocol | deployers hprotocol =>
      rw [hprotocol]
      cases t.tradeType <;> rfl

namespace PoolRoute

variable {r : PoolRoute} {t : RouteTerms} {p : Plan}

lemma pushRoute_eq_ok {q : Plan} {least : Amount} : p.pushRoute (.pooled r) t = .ok (q, least) ↔
    ∃ path, SwapPath.ofRoute r t.tradeType = .ok path ∧ q = p.push (t.swap path) ∧
      least = t.amountOut := by
  simp only [Plan.pushRoute, Route.encode, Plan.push_eq_append, RouteTerms.swap, bind_eq_ok,
    pure_eq_ok, Prod.exists, Prod.mk.injEq]
  cases ht : t.tradeType with
  | exactInput =>
      simp only [encode_exactInput ht]
      constructor
      · rintro ⟨_, _, ⟨path, hpath, rfl, rfl⟩, rfl, rfl⟩
        exact ⟨path, hpath, rfl, rfl⟩
      · rintro ⟨path, hpath, rfl, rfl⟩
        exact ⟨_, _, ⟨path, hpath, rfl, rfl⟩, rfl, rfl⟩
  | exactOutput =>
      simp only [encode_exactOutput ht]
      constructor
      · rintro ⟨_, _, ⟨path, hpath, rfl, rfl⟩, rfl, rfl⟩
        exact ⟨path, hpath, rfl, rfl⟩
      · rintro ⟨path, hpath, rfl, rfl⟩
        exact ⟨_, _, ⟨path, hpath, rfl, rfl⟩, rfl, rfl⟩

lemma exists_pushRoute : (∃ e, p.pushRoute (.pooled r) t = .ok e) ↔
    ¬ (r.protocol = .v3 ∧ ∃ q ∈ r.pools, 2 ^ 24 ≤ q.fee.toNat) := by
  have hpacked : (∀ q ∈ r.pools, q.Packable) ↔
      ¬ (r.protocol = .v3 ∧ ∃ q ∈ r.pools, 2 ^ 24 ≤ q.fee.toNat) := by
    simp only [Pool.Packable, not_and, not_exists, not_le]
    constructor
    · exact fun h hv3 q hq => h q hq ((r.wellFormed.protocol q hq).trans hv3)
    · exact fun h q hq hv3 => h ((r.wellFormed.protocol q hq).symm.trans hv3) q hq
  rw [← hpacked, ← exists_encode (t := t)]
  exact exists_bind_pure

/-- **A route through pools becomes one swap, over its path in the direction of the swap.** It is
refused just where a fee has no room in the path. Over a packed path a fixed output is bought along
the bytes that sell a fixed input along the reversed route. -/
theorem pushRoute_directed (r : PoolRoute) (t : RouteTerms) (p : Plan) :
    ((∃ e, p.pushRoute (.pooled r) t = .ok e) ↔
        ¬ (r.protocol = .v3 ∧ ∃ q ∈ r.pools, 2 ^ 24 ≤ q.fee.toNat)) ∧
      (∀ q least, p.pushRoute (.pooled r) t = .ok (q, least) →
        ∃ path, SwapPath.ofRoute r t.tradeType = .ok path ∧ path.Spells r t.tradeType ∧
          q = p.push (t.swap path) ∧
          (t.swap path).opcode = r.protocol.swapOpcode t.tradeType) ∧
      (r.protocol ≠ .v2 → ∃ r', ofPath r.protocol r.path.reverse r.pools.reverse = .ok r' ∧
        SwapPath.ofRoute r' .exactInput = SwapPath.ofRoute r .exactOutput) := by
  refine ⟨exists_pushRoute, fun q least h => ?_, fun hprotocol => ?_⟩
  · obtain ⟨path, hpath, rfl, -⟩ := pushRoute_eq_ok.mp h
    have hspells := SwapPath.spells_of_ofRoute hpath
    exact ⟨path, hpath, hspells, rfl, RouteTerms.opcode_swap hspells⟩
  · exact ⟨r.reverse, ofPath_of_none r.reverse.sound, SwapPath.ofRoute_reverse hprotocol⟩

end PoolRoute

namespace Route.Sample

def feePool (a b : Nat) (fee : UInt32) : Pool := ⟨.token (token a), .token (token b), .v3 fee 0 0 0⟩

/-- From the first token over the second to the third. -/
def crossing : PoolRoute where
  protocol := .v3
  path := [.token (token 1), .token (token 2), .token (token 3)]
  pools := [feePool 1 2 500, feePool 3 2 3000]
  sound := by decide

/-- The third token is bought over a path that begins with it, as it is sold on the way back. -/
theorem crossing_directed : ∃ bs r', Plan.empty.pushRoute (.pooled crossing)
      (.plain .exactOutput (.ofNat 0x77) 1010 500) =
        .ok (.ofCommands [.swap .exactOutput (.fees bs) (.ofNat 0x77) 500 1010], 500) ∧
    Path.Packed.decode .fee bs = .ok ⟨[.ofNat 3, .ofNat 2, .ofNat 1], [3000, 500]⟩ ∧
    PoolRoute.ofPath .v3 crossing.path.reverse crossing.pools.reverse = .ok r' ∧
    SwapPath.ofRoute r' .exactInput = .ok (.fees bs) := by
  obtain ⟨hexists, hpushed, hback⟩ := PoolRoute.pushRoute_directed crossing
    (.plain .exactOutput (.ofNat 0x77) 1010 500) .empty
  obtain ⟨⟨q, least⟩, hq⟩ := hexists.mpr (by decide)
  obtain ⟨path, hpath, hspells, rfl, -⟩ := hpushed q least hq
  obtain ⟨r', hr', hreverse⟩ := hback (by decide)
  obtain ⟨-, -, -, rfl⟩ := PoolRoute.pushRoute_eq_ok.mp hq
  cases hspells with
  | addresses hprotocol | deployers hprotocol => cases hprotocol
  | @fees bs _ hread => exact ⟨bs, r', hq, hread, hr', hreverse.trans hpath⟩

end Route.Sample

end SwapPlan

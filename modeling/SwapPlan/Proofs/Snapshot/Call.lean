import SwapPlan.Encode.Trade
import SwapPlan.Proofs.Snapshot.Route

/-!
Plans do not hang on snapshots. Routes that are alike become the same commands, and trades that are
alike the same call, whatever their pools held and at which price when they were described.
-/

namespace SwapPlan

/-! ### Paths of swaps -/

namespace SwapPath

variable {path path' : List Currency} {pools pools' : List Pool}

lemma poolFee_congr {p q : Pool} (h : p.Alike q) : poolFee p = poolFee q := by
  obtain ⟨_, _, s⟩ := p
  obtain ⟨_, _, s'⟩ := q
  cases h.state <;> rfl

lemma poolDeployer_congr {p q : Pool} (h : p.Alike q) : poolDeployer p = poolDeployer q := by
  obtain ⟨_, _, s⟩ := p
  obtain ⟨_, _, s'⟩ := q
  cases h.state <;> rfl

lemma through_congr (hpath : List.Forall₂ Currency.Alike path path')
    (hpools : List.Forall₂ Pool.Alike pools pools') (protocol : Protocol) (t : TradeType) :
    through protocol path pools t = through protocol path' pools' t := by
  have htokens : path.map Currency.address = path'.map Currency.address :=
    map_congr_of_forall₂ hpath fun _ _ h => h.address
  have hmapM {α : Type} {f : Pool → Except Error α} (hf : ∀ p q, p.Alike q → f p = f q) :
      pools.mapM f = pools'.mapM f := by
    have hmap := congrArg (List.mapM id) (map_congr_of_forall₂ hpools hf)
    rwa [List.mapM_map, List.mapM_map] at hmap
  unfold through
  rw [htokens, hmapM fun _ _ => poolFee_congr, hmapM fun _ _ => poolDeployer_congr]

end SwapPath

/-! ### Routes -/

namespace Step.Alike

variable {s s' : Step}

lemma command (h : s.Alike s') (t : TradeType) (payee : Address) (amount least : Amount) :
    s.command t payee amount least = s'.command t payee amount least := by
  cases h with
  | wrap h => simp only [Step.command, Vault.address, h.token.2, h.underlying.2]
  | unwrap h => simp only [Step.command, Vault.address, h.token.2]
  | swap ha hb hp =>
      simp only [Step.command, SwapPath.ofSwap, hp.protocol]
      rw [SwapPath.through_congr (.cons ha (.cons hb .nil)) (.cons hp .nil)]

lemma undo? (h : s.Alike s') : s.undo? = s'.undo? := by
  cases h with
  | wrap h => simp only [Step.undo?, Vault.address, h.token.2]
  | unwrap h => simp only [Step.undo?, Vault.address, h.token.2, h.underlying.2]
  | swap => rfl

end Step.Alike

namespace BoostedRoute

variable {steps steps' : List Step} {r r' : BoostedRoute}

lemma exactInputCommands_congr (h : List.Forall₂ Step.Alike steps steps') (payee : Address)
    (least amount : Amount) : exactInputCommands payee least amount steps =
      exactInputCommands payee least amount steps' := by
  induction h generalizing amount with
  | nil => rfl
  | cons hs hrest ih =>
      cases hrest with
      | nil => simp only [exactInputCommands, hs.command]
      | cons hs' hrest => simp only [exactInputCommands, hs.command, ih]

lemma exactOutputCommands_congr {xs ys : List (Step × Amount)}
    (h : List.Forall₂ (fun x y => x.1.Alike y.1 ∧ x.2 = y.2) xs ys) (payee : Address)
    (least amount : Amount) : exactOutputCommands payee least amount xs =
      exactOutputCommands payee least amount ys := by
  induction h generalizing amount with
  | nil => rfl
  | @cons x y xs ys hxy hrest ih =>
      obtain ⟨s, out⟩ := x
      obtain ⟨s', out'⟩ := y
      obtain ⟨hs, rfl⟩ := hxy
      have hcommand (payee : Address) (least : Amount) :
          exactOutputCommand payee amount least out s =
            exactOutputCommand payee amount least out s' := by
        simp only [exactOutputCommand, hs.isSwap, hs.command]
      cases hrest with
      | nil => simp only [exactOutputCommands, hcommand]
      | cons hxy' hrest => simp only [exactOutputCommands, hcommand, ih]

lemma takeWhile_congr (h : List.Forall₂ Step.Alike steps steps') :
    List.Forall₂ Step.Alike (steps.takeWhile fun s => !s.isSwap)
      (steps'.takeWhile fun s => !s.isSwap) := by
  induction h with
  | nil => exact .nil
  | cons hs _ ih =>
      rw [List.takeWhile_cons, List.takeWhile_cons, hs.isSwap]
      split
      · exact .cons hs ih
      · exact .nil

lemma any_congr (h : List.Forall₂ Step.Alike steps steps') :
    steps.any Step.isSwap = steps'.any Step.isSwap := by
  have hmap : (steps.map Step.isSwap).any id = (steps'.map Step.isSwap).any id := by
    rw [map_congr_of_forall₂ h fun _ _ hs => hs.isSwap]
  rwa [List.any_map, List.any_map] at hmap

lemma unwind_congr (h : r.Alike r') : r.unwind = r'.unwind := by
  have hundo := map_congr_of_forall₂ (List.forall₂_reverse_iff.mpr (takeWhile_congr h.steps))
    fun _ _ hs => hs.undo?
  have hfilter := congrArg (List.filterMap id) hundo
  rw [List.filterMap_map, List.filterMap_map] at hfilter
  rw [unwind, unwind, any_congr h.steps]
  split
  · exact hfilter
  · rfl

lemma encode_congr (h : r.Alike r') (t : RouteTerms) : r.encode t = r'.encode t := by
  have hamounts : r.outputAmounts t = r'.outputAmounts t := by
    unfold outputAmounts swapCount
    rw [countP_congr h.steps, h.steps.length_eq]
  have hlast : r.steps.getLast?.map Step.isSwap = r'.steps.getLast?.map Step.isSwap := by
    rw [← List.getLast?_map, ← List.getLast?_map,
      map_congr_of_forall₂ h.steps fun _ _ hs => hs.isSwap]
  have hdelivered (amounts : List Amount) :
      r.delivered t.buffer amounts = r'.delivered t.buffer amounts := by
    rw [delivered, delivered, hlast]
  have hcommands (least amount : Amount) (amounts : List Amount) :
      exactOutputCommands t.recipient least amount (r.steps.zip amounts) =
        exactOutputCommands t.recipient least amount (r'.steps.zip amounts) :=
    exactOutputCommands_congr (forall₂_zip h.steps (List.forall₂_refl amounts)) _ _ _
  simp only [encode, exactInputCommands_congr h.steps, hamounts, hdelivered, hcommands,
    any_congr h.steps, unwind_congr h]

end BoostedRoute

lemma PoolRoute.encode_congr {r r' : PoolRoute} (h : r.Alike r') (t : RouteTerms) :
    r.encode t = r'.encode t := by
  simp only [encode, SwapPath.ofRoute, h.protocol, SwapPath.through_congr h.path h.pools]

lemma Route.encode_congr {r r' : Route} (h : r.Alike r') (t : RouteTerms) :
    r.encode t = r'.encode t := by
  cases h with
  | pooled h => exact PoolRoute.encode_congr h t
  | boosted h => exact BoostedRoute.encode_congr h t

/-! ### Trades -/

structure TradeSwap.Alike (s s' : TradeSwap) : Prop where
  route : s.route.Alike s'.route
  inputAmount : s.inputAmount = s'.inputAmount
  outputAmount : s.outputAmount = s'.outputAmount
  stepAmountsOut : s.stepAmountsOut = s'.stepAmountsOut

namespace Trade

variable {t t' : Trade}

structure Alike (t t' : Trade) : Prop where
  tradeType : t.tradeType = t'.tradeType
  first : t.first.Alike t'.first
  rest : List.Forall₂ TradeSwap.Alike t.rest t'.rest

namespace Alike

lemma input (h : t.Alike t') : t.input.Alike t'.input := h.first.route.input

lemma output (h : t.Alike t') : t.output.Alike t'.output := h.first.route.output

lemma swaps (h : t.Alike t') : List.Forall₂ TradeSwap.Alike t.swaps t'.swaps :=
  .cons h.first h.rest

lemma inputAmount (h : t.Alike t') : t.inputAmount = t'.inputAmount := by
  rw [Trade.inputAmount, Trade.inputAmount,
    map_congr_of_forall₂ h.swaps fun _ _ hs => hs.inputAmount]

lemma outputAmount (h : t.Alike t') : t.outputAmount = t'.outputAmount := by
  rw [Trade.outputAmount, Trade.outputAmount,
    map_congr_of_forall₂ h.swaps fun _ _ hs => hs.outputAmount]

lemma isAggregated (h : t.Alike t') : t.isAggregated = t'.isAggregated := by
  have hrest : t.rest = [] ↔ t'.rest = [] := by
    rw [← List.length_eq_zero_iff, h.rest.length_eq, List.length_eq_zero_iff]
  simp only [Trade.isAggregated, h.tradeType, ne_eq, hrest]

lemma needsCustody (h : t.Alike t') : t.needsCustody = t'.needsCustody := by
  rw [Trade.needsCustody, Trade.needsCustody, h.output.isNative, h.isAggregated]

end Alike

variable {swaps swaps' : List TradeSwap} {input output input' output' : Currency}

lemma fault?_congr (h : List.Forall₂ TradeSwap.Alike swaps swaps') (hin : input.Alike input')
    (hout : output.Alike output') (idx : Nat) (a b : Amount) :
    fault? input output idx a b swaps = fault? input' output' idx a b swaps' := by
  induction h generalizing idx a b with
  | nil => rfl
  | cons hs _ ih =>
      unfold fault?
      simp only [hs.inputAmount, hs.outputAmount, Currency.same_congr hs.route.input hin,
        Currency.same_congr hs.route.output hout, ih]

lemma ofSwaps_of_none {s : TradeSwap} {tradeType : TradeType}
    (h : fault? s.route.input s.route.output 0 0 0 (s :: swaps) = none) :
    ofSwaps (s :: swaps) tradeType = .ok ⟨tradeType, s, swaps, h⟩ := by
  unfold ofSwaps
  simp only
  split
  · rename_i e he
    exact absurd (h.symm.trans he) (Option.some_ne_none e).symm
  · rfl

lemma ofSwaps_of_some {s : TradeSwap} {tradeType : TradeType} {e : Error}
    (h : fault? s.route.input s.route.output 0 0 0 (s :: swaps) = some e) :
    ofSwaps (s :: swaps) tradeType = .error e := by
  unfold ofSwaps
  simp only
  split
  · rename_i e' he
    rw [Option.some.inj (h.symm.trans he)]
  · rename_i hnone
    exact absurd (h.symm.trans hnone) (Option.some_ne_none e)

lemma ofSwaps_congr (h : List.Forall₂ TradeSwap.Alike swaps swaps') (tradeType : TradeType) :
    Agree Alike (ofSwaps swaps tradeType) (ofSwaps swaps' tradeType) := by
  cases h with
  | nil => exact .error _
  | @cons s s' swaps swaps' hs hrest =>
      have hfault := fault?_congr (.cons hs hrest) hs.route.input hs.route.output 0 0 0
      cases hcase : fault? s.route.input s.route.output 0 0 0 (s :: swaps) with
      | some e =>
          rw [ofSwaps_of_some hcase, ofSwaps_of_some (hfault.symm.trans hcase)]
          exact .error e
      | none =>
          rw [ofSwaps_of_none hcase, ofSwaps_of_none (hfault.symm.trans hcase)]
          exact .ok ⟨rfl, hs, hrest⟩

lemma payout_congr {a b : Currency} (h : a.Alike b) (payee : Address) (least : Amount) :
    payout a payee least = payout b payee least := by
  rw [payout, payout, h.isNative, h.address]

lemma terms_congr {s s' : TradeSwap} (h : t.Alike t') (hs : s.Alike s') (o : SwapOptions) :
    t.terms o s = t'.terms o s' := by
  simp only [terms, TradeSwap.minimumOut, TradeSwap.maximumIn, h.tradeType, h.needsCustody,
    h.isAggregated, hs.inputAmount, hs.outputAmount, hs.stepAmountsOut]

lemma routeCommands_congr (h : t.Alike t') (hswaps : List.Forall₂ TradeSwap.Alike swaps swaps')
    (o : SwapOptions) (delivered : Amount) :
    t.routeCommands o delivered swaps = t'.routeCommands o delivered swaps' := by
  induction hswaps generalizing delivered with
  | nil => rfl
  | cons hs _ ih =>
      simp only [routeCommands, terms_congr h hs, Route.encode_congr hs.route, ih]

lemma commands_congr (h : t.Alike t') (o : SwapOptions) : t.commands o = t'.commands o := by
  have hpermit : t.permitFault? o.permit = t'.permitFault? o.permit := by
    simp only [permitFault?, h.input.isNative, h.input.address]
  have hminimum : t.minimumOut o.slippage = t'.minimumOut o.slippage := by
    rw [minimumOut, minimumOut, h.tradeType, h.outputAmount]
  have hmaximum : t.maximumIn o.slippage = t'.maximumIn o.slippage := by
    rw [maximumIn, maximumIn, h.tradeType, h.inputAmount]
  have hintake (maxIn : Amount) : t.intake maxIn = t'.intake maxIn := by
    simp only [intake, h.input.isNative, h.input.address]
  unfold commands
  simp only [hpermit, hminimum, hmaximum, hintake, routeCommands_congr h h.swaps, h.tradeType,
    h.needsCustody, payout_congr h.output, payout_congr h.input, h.input.isNative]

lemma callParameters_congr (h : t.Alike t') (o : SwapOptions) :
    t.callParameters o = t'.callParameters o := by
  simp only [callParameters, plan, commands_congr h]

end Trade

/-! ### From descriptions to calls -/

/-- One route of a trade as it is described, with its quoted amounts. -/
structure SwapDraft where
  family : Route.Family
  path : List Currency
  pools : List Pool
  inputAmount : Amount
  outputAmount : Amount
  stepAmountsOut : Option (List Amount)

namespace SwapDraft

def build (d : SwapDraft) : Except Error TradeSwap := do
  let route ← Route.ofPath d.family d.path d.pools
  return ⟨route, d.inputAmount, d.outputAmount, d.stepAmountsOut⟩

/-- The call of the trade that some drafts describe. -/
def callParameters (ds : List SwapDraft) (tradeType : TradeType) (o : SwapOptions) :
    Except Error CallParameters := do
  let swaps ← ds.mapM build
  let trade ← Trade.ofSwaps swaps tradeType
  trade.callParameters o

/-- Drafts with the same amounts over currencies and pools that are alike. -/
structure Alike (d e : SwapDraft) : Prop where
  family : d.family = e.family
  path : List.Forall₂ Currency.Alike d.path e.path
  pools : List.Forall₂ Pool.Alike d.pools e.pools
  inputAmount : d.inputAmount = e.inputAmount
  outputAmount : d.outputAmount = e.outputAmount
  stepAmountsOut : d.stepAmountsOut = e.stepAmountsOut

lemma build_congr {d e : SwapDraft} (h : d.Alike e) :
    Agree TradeSwap.Alike d.build e.build := by
  rw [build, build, h.family]
  refine (Route.ofPath_congr h.path h.pools e.family).bind fun _ _ hroute => ?_
  exact .ok ⟨hroute, h.inputAmount, h.outputAmount, h.stepAmountsOut⟩

/-- **Drafts that are alike come to the same call**, or fail for the same reason. -/
theorem callParameters_ignores_snapshots {ds es : List SwapDraft}
    (h : List.Forall₂ Alike ds es) (tradeType : TradeType) (o : SwapOptions) :
    callParameters ds tradeType o = callParameters es tradeType o := by
  refine Agree.eq ?_
  refine (Agree.mapM h fun _ _ => build_congr).bind fun swaps swaps' hswaps => ?_
  refine (Trade.ofSwaps_congr hswaps tradeType).bind fun t t' ht => ?_
  rw [Trade.callParameters_congr ht]
  cases t'.callParameters o with
  | error e => exact .error e
  | ok call => exact .ok rfl

end SwapDraft

/-! ### A trade described twice -/

namespace SwapDraft.Sample

/-- A state of the world in which a trade is described. -/
structure View where
  decimals : UInt8
  symbol : Option String
  reserve : Amount
  fee : UInt32
  price : BitVec 160
  flipped : Bool

def token (v : View) (n : Nat) : Token := ⟨1, .ofNat n, v.decimals, v.symbol⟩

def share (v : View) : Vault := ⟨token v 0xb1, token v 0xa1⟩

def pool (v : View) (a b : Currency) (s : Pool.State) : Pool :=
  if v.flipped then ⟨b, a, s⟩ else ⟨a, b, s⟩

/-- A swap through reserves, and one behind a deposit through a pool with a deployer. -/
def drafts (v : View) : List SwapDraft :=
  [⟨.pooled .v2, [.token (token v 0xa1), .native 1 (token v 0xe0)],
    [pool v (.token (token v 0xa1)) (.token (token v 0xe0)) (.v2 v.reserve 0)], 500, 40, none⟩,
   ⟨.boosted, [.token (token v 0xa1), .vault (share v), .native 1 (token v 0xe0)],
    [pool v (.vault (share v)) (.token (token v 0xe0))
      (.integral (.ofNat 0xdd) v.fee v.price 0 0)], 250, 20, none⟩]

def early : View := ⟨18, none, 1000, 100, 7, false⟩

def late : View := ⟨6, some "LATE", 3, 900, 8, true⟩

def options : SwapOptions := .plain (.ofNat 0x77) ⟨1, 200, by decide, by decide⟩

lemma drafts_alike (v w : View) : List.Forall₂ Alike (drafts v) (drafts w) := by
  have htoken (n : Nat) : (token v n).Alike (token w n) := ⟨rfl, rfl⟩
  have hshare : (share v).Alike (share w) := ⟨htoken _, htoken _⟩
  have hpool {a a' b b' : Currency} {s s' : Pool.State} (ha : a.Alike a') (hb : b.Alike b')
      (hs : s.Alike s') : (pool v a b s).Alike (pool w a' b' s') := by
    unfold pool
    split <;> split
    · exact ⟨hs, .inl ⟨hb, ha⟩⟩
    · exact ⟨hs, .inr ⟨hb, ha⟩⟩
    · exact ⟨hs, .inr ⟨ha, hb⟩⟩
    · exact ⟨hs, .inl ⟨ha, hb⟩⟩
  have hin : (Currency.token (token v 0xa1)).Alike (.token (token w 0xa1)) := .token (htoken _)
  have hweth : (Currency.token (token v 0xe0)).Alike (.token (token w 0xe0)) := .token (htoken _)
  have hout : (Currency.native 1 (token v 0xe0)).Alike (.native 1 (token w 0xe0)) :=
    .native 1 (htoken _)
  have hvault : (Currency.vault (share v)).Alike (.vault (share w)) := .vault hshare
  refine .cons ?_ (.cons ?_ .nil)
  · exact ⟨rfl, .cons hin (.cons hout .nil), .cons (hpool hin hweth (.v2 ..)) .nil, rfl, rfl, rfl⟩
  · exact ⟨rfl, .cons hin (.cons hvault (.cons hout .nil)),
      .cons (hpool hvault hweth (.integral ..)) .nil, rfl, rfl, rfl⟩

/-- Early or late, the trade comes to one call. -/
theorem one_call : ∃ call, callParameters (drafts early) .exactInput options = .ok call ∧
    callParameters (drafts late) .exactInput options = .ok call := by
  have hok : (callParameters (drafts early) .exactInput options).toOption.isSome = true := by
    decide +kernel
  obtain ⟨call, hcall⟩ := Option.isSome_iff_exists.mp hok
  have hcall := eq_ok_of_toOption hcall
  refine ⟨call, hcall, ?_⟩
  rw [← callParameters_ignores_snapshots (drafts_alike early late), hcall]

end SwapDraft.Sample

end SwapPlan

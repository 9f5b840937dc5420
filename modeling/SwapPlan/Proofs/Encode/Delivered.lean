import SwapPlan.Proofs.Encode.Trade
import SwapPlan.Proofs.Encode.Boosted

/-!
What the encoder takes the routes of a fixed output to deliver at least: a route through pools the
output of its swap, a boosted route what its step amounts name for the last step, less the rounding
buffer if that is a vault step.
-/

namespace SwapPlan

namespace PoolRoute

variable {r : PoolRoute} {t : RouteTerms} {cs : List Command} {least : Amount}

lemma encode_exactInput (ht : t.tradeType = .exactInput) :
    r.encode t = .ok (cs, least) ↔ ∃ path, SwapPath.ofRoute r .exactInput = .ok path ∧
      cs = [.swap .exactInput path t.recipient t.amountIn t.amountOut] ∧ least = t.amountOut := by
  simp only [encode, ht, bind_eq_ok, pure_eq_ok, Prod.mk.injEq]
  constructor <;> rintro ⟨path, hpath, rfl, rfl⟩ <;> exact ⟨path, hpath, rfl, rfl⟩

lemma encode_exactOutput (ht : t.tradeType = .exactOutput) :
    r.encode t = .ok (cs, least) ↔ ∃ path, SwapPath.ofRoute r .exactOutput = .ok path ∧
      cs = [.swap .exactOutput path t.recipient t.amountOut t.amountIn] ∧
        least = t.amountOut := by
  simp only [encode, ht, bind_eq_ok, pure_eq_ok, Prod.mk.injEq]
  constructor <;> rintro ⟨path, hpath, rfl, rfl⟩ <;> exact ⟨path, hpath, rfl, rfl⟩

end PoolRoute

namespace BoostedRoute

/-- The last step of a route is its swap. -/
def endsInSwap (r : BoostedRoute) : Bool := (r.steps.getLast?.map Step.isSwap).getD false

end BoostedRoute

/-- A route with a fixed input is to deliver just what its terms name. -/
lemma Route.least_of_exactInput {r : Route} {t : RouteTerms} {cs : List Command} {least : Amount}
    (ht : t.tradeType = .exactInput) (h : r.encode t = .ok (cs, least)) : least = t.amountOut := by
  cases r with
  | pooled r =>
      obtain ⟨path, -, -, hleast⟩ := (PoolRoute.encode_exactInput ht).mp h
      exact hleast
  | boosted r =>
      simp only [encode, BoostedRoute.encode, ht, bind_eq_ok, pure_eq_ok, Prod.mk.injEq] at h
      obtain ⟨_, -, -, hleast⟩ := h
      exact hleast.symm

namespace TradeSwap

/-- The least that a swap with a fixed output is to pay for an output: just this, or less the
rounding buffer behind a vault step. -/
def least (s : TradeSwap) (buffer : RoundingBuffer) (out : Amount) : Nat :=
  match s.route with
  | .pooled _ => out.toNat
  | .boosted r => if r.endsInSwap then out.toNat else buffer.less out.toNat

/-- The output that the commands of a swap are held to. -/
def heldOutput (s : TradeSwap) : Amount :=
  match s.route with
  | .pooled _ => s.outputAmount
  | .boosted _ => ((s.stepAmountsOut.getD []).getLast?).getD 0

/-- What the commands of a swap deliver at least. -/
def delivered (s : TradeSwap) (buffer : RoundingBuffer) : Nat := s.least buffer s.heldOutput

end TradeSwap

namespace Trade

def delivered (t : Trade) (o : SwapOptions) : Nat :=
  (t.swaps.map fun s => s.delivered o.buffer).sum

variable {t : Trade} {o : SwapOptions}

lemma toNat_of_encode (ht : t.tradeType = .exactOutput) {s : TradeSwap} {terms : RouteTerms}
    {cs : List Command} {least : Amount} (hterms : t.terms o s = .ok terms)
    (hencode : s.route.encode terms = .ok (cs, least)) :
    least.toNat = s.delivered o.buffer := by
  obtain ⟨htype, -, -, hout, -, hamounts, hbuffer⟩ := terms_exactOutput ht hterms
  obtain ⟨route, input, output, stepAmounts⟩ := s
  cases route with
  | pooled r =>
      obtain ⟨path, -, -, rfl⟩ := (PoolRoute.encode_exactOutput htype).mp hencode
      rw [hout]
      rfl
  | boosted r =>
      simp only [Route.encode, BoostedRoute.encode, htype, bind_eq_ok, pure_eq_ok,
        Prod.mk.injEq] at hencode
      obtain ⟨amounts, hsteps, d, hd, -, -, -, rfl⟩ := hencode
      obtain ⟨-, hsome, -⟩ := BoostedRoute.outputAmounts_eq_ok.mp hsteps
      obtain rfl : stepAmounts = some amounts := hamounts.symm.trans hsome
      simp only [TradeSwap.delivered, TradeSwap.least, TradeSwap.heldOutput, Option.getD_some]
      rw [BoostedRoute.delivered] at hd
      change (if r.endsInSwap then _ else _) = _ at hd
      split_ifs at hd ⊢
      · rw [← Except.ok.inj hd]
      · rw [← hbuffer, RoundingBuffer.toNat_apply hd]

/-- What is counted for the swaps is what they deliver at least. -/
lemma sum_of_blocks (ht : t.tradeType = .exactOutput) {swaps : List TradeSwap}
    {blocks : List (List Command × Amount)} (h : List.Forall₂ (t.Block o) swaps blocks) :
    (blocks.map fun b => b.2.toNat).sum = (swaps.map fun s => s.delivered o.buffer).sum := by
  refine congrArg List.sum (map_congr_of_forall₂ h ?_).symm
  rintro s ⟨cs, least⟩ ⟨terms, hterms, hencode⟩
  exact (toNat_of_encode ht hterms hencode).symm

/-- The sum that the encoder forms is that of the least deliveries. -/
lemma toNat_of_routeCommands (ht : t.tradeType = .exactOutput) {swaps : List TradeSwap}
    {before total : Amount} {routes : List Command}
    (h : t.routeCommands o before swaps = .ok (routes, total)) :
    total.toNat = before.toNat + (swaps.map fun s => s.delivered o.buffer).sum := by
  obtain ⟨blocks, hblocks, -, htotal⟩ := exists_blocks h
  rw [htotal, sum_of_blocks ht hblocks]

end Trade

end SwapPlan

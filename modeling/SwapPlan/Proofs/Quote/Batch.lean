import SwapPlan.Quote.Quoter
import SwapPlan.Proofs.Outcome
import SwapPlan.Proofs.Path.Hops

/-!
Batches of quotes. All requests that can be planned are sent in one call, and the outcomes are dealt
back in order. Each request takes just the outcome of its own plan, so what it comes to does not
hang on the others.
-/

namespace SwapPlan

/-- The plan of a request, if there is one. -/
def QuoteRequest.plan? (q : QuoteRequest) : Option QuotePlan :=
  (QuotePlan.ofRoute q.route q.amount q.tradeType).toOption

def QuotePlan.call (p : QuotePlan) : QuoteCall := p.plan.quoteCall

namespace Quoter

/-- The calls that a batch sends. -/
def batchCalls (qs : List QuoteRequest) : List QuoteCall :=
  qs.filterMap fun q => q.plan?.map QuotePlan.call

/-- What a request comes to, if `f` gives the outcome of a plan. -/
def result (f : QuoteCall → Option (List Bytes)) (q : QuoteRequest) : Option QuoteResult :=
  q.plan?.bind fun p => (f p.call).bind fun raw => (p.decode raw).toOption

/-- An interpreter that answers every batch with the outcomes of its plans, one by one. -/
def Deals {m : Type → Type} [Monad m] (backend : QuoterBackend m)
    (f : QuoteCall → Option (List Bytes)) : Prop :=
  ∀ cs, (backend.executeBatch cs).run = pure (.ok (cs.map f))

/-- An interpreter that runs a single plan with the outcome that it has in a batch. -/
def RunsAlone {m : Type → Type} [Monad m] (backend : QuoterBackend m)
    (f : QuoteCall → Option (List Bytes)) : Prop :=
  ∀ c, ∃ e, (backend.execute c).run = pure ((f c).elim (.error e) .ok)

variable {m : Type → Type} [Monad m] {backend : QuoterBackend m} {vaults : VaultPreview m}
  {f : QuoteCall → Option (List Bytes)} {q : QuoteRequest} {qs : List QuoteRequest}

/-- A request that is not planned takes no outcome, and every other one takes its own. -/
lemma deal_batchCalls (f : QuoteCall → Option (List Bytes)) (qs : List QuoteRequest) :
    deal (qs.map QuoteRequest.plan?) ((batchCalls qs).map f) = qs.map (result f) := by
  induction qs with
  | nil => rfl
  | cons q qs ih =>
      cases hplan : q.plan? with
      | none =>
          have hcalls : batchCalls (q :: qs) = batchCalls qs := by
            rw [batchCalls, List.filterMap_cons_none (by rw [hplan]; rfl), batchCalls]
          rw [List.map_cons, List.map_cons, hplan, hcalls, deal, ih, result, hplan]
          rfl
      | some p =>
          have hcalls : batchCalls (q :: qs) = p.call :: batchCalls qs := by
            rw [batchCalls, List.filterMap_cons_some (by rw [hplan]; rfl), batchCalls]
          rw [List.map_cons, List.map_cons, hplan, hcalls, List.map_cons, deal, List.head?_cons,
            List.tail_cons, ih, result, hplan]
          rfl

/-- A batch of which nothing can be planned is not sent, and comes to nothing. -/
lemma deal_nil (h : batchCalls qs = []) :
    deal (qs.map QuoteRequest.plan?) [] = qs.map fun _ => none := by
  have hdeal := deal_batchCalls (fun _ => none) qs
  rw [h, List.map_nil] at hdeal
  rw [hdeal, List.map_inj_left]
  intro q _
  simp [result]

/-- What a batch makes of the answer to its call. -/
def settle (qs : List QuoteRequest) :
    Except Error (List (Option (List Bytes))) → List (Option QuoteResult)
  | .ok outcomes =>
    if outcomes.length = (batchCalls qs).length then deal (qs.map QuoteRequest.plan?) outcomes
    else qs.map fun _ => none
  | .error _ => qs.map fun _ => none

lemma quoteBatch_eq : quoteBatch backend qs =
    if batchCalls qs = [] then pure (qs.map fun _ => none)
    else (backend.executeBatch (batchCalls qs)).run >>= fun answer => pure (settle qs answer) := by
  have hplans : (qs.map fun q => (QuotePlan.ofRoute q.route q.amount q.tradeType).toOption) =
      qs.map QuoteRequest.plan? := rfl
  have hcalls : (qs.map QuoteRequest.plan?).filterMap (fun p => p.map fun p => p.plan.quoteCall) =
      batchCalls qs := List.filterMap_map
  have hvoid : (qs.map QuoteRequest.plan?).map (fun _ => (none : Option QuoteResult)) =
      qs.map fun _ => none := List.map_map
  simp only [quoteBatch, hcalls, hvoid, hplans]
  congr 2
  funext answer
  cases answer with
  | error e => rfl
  | ok outcomes =>
      simp only [settle]
      split <;> rfl

/-- What a batch comes to by the answer to its call. -/
lemma quoteBatch_of_answer [LawfulMonad m] {answer : Except Error (List (Option (List Bytes)))}
    (h : (backend.executeBatch (batchCalls qs)).run = pure answer) :
    quoteBatch backend qs = pure (settle qs answer) := by
  rw [quoteBatch_eq, h, pure_bind]
  split
  · rename_i hnil
    cases answer with
    | error e => rfl
    | ok outcomes =>
        rw [settle, hnil]
        split
        · rename_i hlen
          obtain rfl := List.eq_nil_of_length_eq_zero hlen
          rw [deal_nil hnil]
        · rfl
  · rfl

lemma quoteBatch_of_deals [LawfulMonad m] (hf : Deals backend f) (qs : List QuoteRequest) :
    quoteBatch backend qs = pure (qs.map (result f)) := by
  rw [quoteBatch_of_answer (hf _), settle, if_pos (List.length_map _), deal_batchCalls]

lemma previewed?_eq_none {r : Route} {t : TradeType} : previewed? r t = none ↔
    ¬ (t = .exactOutput ∧ ∃ b, r = .boosted b ∧ b.swapCount = 0) := by
  cases r <;> simp [previewed?]

lemma run_liftM {α : Type} (x : Except Error α) : (liftM x : ExceptT Error m α).run = pure x := rfl

/-- A single quote comes to what the request comes to in a batch. -/
lemma quote_of_runsAlone [LawfulMonad m] (hf : RunsAlone backend f)
    (hq : previewed? q.route q.tradeType = none) :
    Except.toOption <$> (quote backend vaults q).run = pure (result f q) := by
  rw [quote, hq, result, QuoteRequest.plan?]
  simp only [ExceptT.run_bind, run_liftM, pure_bind]
  cases QuotePlan.ofRoute q.route q.amount q.tradeType with
  | error e => rw [map_pure]; rfl
  | ok p =>
      obtain ⟨e, he⟩ := hf p.call
      simp only [show p.plan.quoteCall = p.call from rfl, he, pure_bind]
      cases hout : f p.call with
      | none => simp [Except.toOption, hout]
      | some raw => simp [Except.toOption, hout]

/-- **A batch comes to what its requests come to by themselves.** -/
theorem quoteBatch_isolates [LawfulMonad m] (backend : QuoterBackend m) (vaults : VaultPreview m)
    (qs : List QuoteRequest) :
    (∀ f, Deals backend f → ∃ results, quoteBatch backend qs = pure results ∧
      List.Forall₂ (fun q result => quoteBatch backend [q] = pure [result]) qs results ∧
      (RunsAlone backend f → List.Forall₂ (fun q result =>
        ¬ (q.tradeType = .exactOutput ∧ ∃ r, q.route = .boosted r ∧ r.swapCount = 0) →
          Except.toOption <$> (quote backend vaults q).run = pure result) qs results)) ∧
    ∀ answer, (backend.executeBatch (batchCalls qs)).run = pure answer →
      (∀ outcomes, answer = .ok outcomes → outcomes.length ≠ (batchCalls qs).length) →
        quoteBatch backend qs = pure (qs.map fun _ => none) := by
  refine ⟨fun f hf => ⟨_, quoteBatch_of_deals hf qs, ?_, fun halone => ?_⟩,
    fun answer hanswer hshort => ?_⟩
  · rw [List.forall₂_map_right_iff, List.forall₂_same]
    exact fun q _ => quoteBatch_of_deals hf [q]
  · rw [List.forall₂_map_right_iff, List.forall₂_same]
    intro q _ hq
    refine quote_of_runsAlone halone (previewed?_eq_none.mpr hq)
  · rw [quoteBatch_of_answer hanswer]
    cases answer with
    | error e => rfl
    | ok outcomes => rw [settle, if_neg (hshort outcomes rfl)]

end Quoter

/-! ### A batch in which some fail -/

namespace Quoter.Sample

open Path.Sample (token share crossing)

/-- A deposit alone. -/
def deposit : BoostedRoute where
  path := [.token (token 1), .vault (share 1)]
  pools := []
  steps := [.wrap (share 1)]
  sound := rfl

/-- Plans of one command succeed, longer ones fail. -/
def outcome (c : QuoteCall) : Option (List Bytes) :=
  if c.commands.length = 1 then some [QuotePlan.swapOutput.encode (7, [], 21000)] else none

def backend : QuoterBackend Id where
  execute c := (outcome c).elim (throw .quoterCallFailed) pure
  executeBatch cs := pure (cs.map outcome)

/-- An interpreter that loses the last outcome of every batch. -/
def lossy : QuoterBackend Id where
  execute c := (outcome c).elim (throw .quoterCallFailed) pure
  executeBatch cs := pure (cs.map outcome).dropLast

def vaults : VaultPreview Id where
  preview _ _ amount := pure amount

/-- One request succeeds, one is not planned, one fails, and one succeeds again. -/
def requests : List QuoteRequest :=
  [⟨.boosted crossing, 100, .exactOutput⟩, ⟨.boosted deposit, 10, .exactOutput⟩,
    ⟨.boosted crossing, 100, .exactInput⟩, ⟨.boosted crossing, 200, .exactOutput⟩]

lemma runsAlone_backend : RunsAlone backend outcome := by
  intro c
  refine ⟨.quoterCallFailed, ?_⟩
  simp only [backend]
  cases outcome c <;> rfl

/-- Only the requests that fail by themselves fail in the batch, unless the batch itself does. -/
theorem requests_isolated : ∃ results : List (Option QuoteResult),
    quoteBatch backend requests = results ∧
    results.map Option.isSome = [true, false, false, true] ∧
    List.Forall₂ (fun q result => quoteBatch backend [q] = [result]) requests results ∧
    results[2]? = some (quote backend vaults ⟨.boosted crossing, 100, .exactInput⟩).run.toOption ∧
    quoteBatch lossy requests = [none, none, none, none] := by
  obtain ⟨results, hresults, hsingles, hquotes⟩ :=
    (quoteBatch_isolates backend vaults requests).1 outcome fun cs => rfl
  have hfailed : (quoteBatch backend requests).map Option.isSome = [true, false, false, true] := by
    decide +kernel
  have hcalls : (batchCalls requests).length = 3 := by decide +kernel
  rw [hresults] at hfailed
  refine ⟨results, hresults, hfailed, hsingles, ?_, ?_⟩
  · rcases hquotes runsAlone_backend with _ | ⟨-, _ | ⟨-, _ | ⟨hquote, -⟩⟩⟩
    exact (congrArg some (hquote (by simp))).symm
  · refine (quoteBatch_isolates lossy vaults requests).2 _ rfl ?_
    rintro _ ⟨⟩
    rw [List.length_dropLast, List.length_map, hcalls]
    decide

end Quoter.Sample

end SwapPlan

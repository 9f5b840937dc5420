import SwapPlan.Quote.Plan
import SwapPlan.Proofs.Amount
import SwapPlan.Proofs.Path.Hops

/-!
The outputs of a quote. The forms in which they are expected are written down beside the commands
and not read off them, so it has to be shown that the two lists fit; then every output is read as
its own command gave it, and the amounts of a result belong to the right steps.
-/

namespace SwapPlan

/-- The form in which the interpreter answers a command, if quotes use it. -/
def OutputKind.ofOpcode? : Opcode → Option OutputKind
  | .v2SwapExactIn | .v2SwapExactOut | .v3SwapExactIn | .v3SwapExactOut
  | .integralSwapExactIn | .integralSwapExactOut | .boostedSwapExactOut => some .swap
  | .erc4626Wrap | .erc4626Unwrap => some .vault
  | _ => none

namespace QuotePlan

variable {r : Route} {amount : Amount} {t : TradeType} {q : QuotePlan} {steps : List Step}
  {cs : List Command} {kinds : List OutputKind}

/-- The form in which a command is answered. -/
def kindOf? (c : Command) : Option OutputKind := OutputKind.ofOpcode? c.opcode

/-! ### Commands and forms -/

lemma kindOf?_swap (side : TradeType) (path : SwapPath) (payee : Address) (exact bound : Amount) :
    kindOf? (.swap side path payee exact bound) = some .swap := by
  cases side <;> cases path <;> rfl

lemma kindOf?_command {s : Step} {payee : Address} {least : Amount} {c : Command}
    (h : s.command t payee amount least = .ok c) :
    kindOf? c = some (if s.isSwap then .swap else .vault) := by
  cases s with
  | wrap v =>
      obtain rfl := Except.ok.inj h
      rfl
  | unwrap v =>
      obtain rfl := Except.ok.inj h
      rfl
  | swap a b p =>
      simp only [Step.command, bind_eq_ok, pure_eq_ok] at h
      obtain ⟨path, -, rfl⟩ := h
      exact kindOf?_swap t path payee amount least

lemma kindOf?_stepCommands (h : stepCommands amount steps = .ok cs) :
    cs.map kindOf? = (stepOutputs steps).map some := by
  have hkinds := map_congr_of_forall₂ (mapM_eq_ok.mp h)
    (f := fun a => some (if a.1.isSwap then OutputKind.swap else .vault)) (g := kindOf?)
    fun _ _ hc => (kindOf?_command hc).symm
  have hsteps : steps.zipIdx.map Prod.fst = steps := List.zipIdx_map_fst 0 steps
  rw [← hkinds, stepOutputs, List.map_map]
  conv_rhs => rw [← hsteps, List.map_map]
  rfl

/-- A quote is one swap, or the steps of a boosted route with a fixed input. -/
lemma commands_cases (h : commands amount t r = .ok (cs, kinds)) :
    (∃ c, kindOf? c = some .swap ∧ cs = [c] ∧ kinds = [.swap]) ∨
      t = .exactInput ∧ ∃ b, r = .boosted b ∧ stepCommands amount b.steps = .ok cs ∧
        kinds = stepOutputs b.steps := by
  match r, t with
  | .pooled p, t =>
    simp only [commands, bind_eq_ok, pure_eq_ok, Prod.mk.injEq] at h
    obtain ⟨path, -, rfl, rfl⟩ := h
    exact .inl ⟨_, kindOf?_swap t path _ amount 0, rfl, rfl⟩
  | .boosted b, .exactInput =>
    simp only [commands, bind_eq_ok, pure_eq_ok, Prod.mk.injEq] at h
    obtain ⟨_, hcs, rfl, rfl⟩ := h
    exact .inr ⟨rfl, b, rfl, hcs, rfl⟩
  | .boosted b, .exactOutput =>
    simp only [commands] at h
    split at h
    · cases h
    · simp only [bind_eq_ok, pure_eq_ok, Prod.mk.injEq] at h
      obtain ⟨path, -, rfl, rfl⟩ := h
      exact .inl ⟨_, rfl, rfl, rfl⟩

/-- One form is expected for each command, and it is the command's own. -/
lemma kindOf?_commands (h : commands amount t r = .ok (cs, kinds)) :
    cs.map kindOf? = kinds.map some := by
  obtain ⟨c, hc, rfl, rfl⟩ | ⟨-, b, -, hcs, rfl⟩ := commands_cases h
  · exact congrArg (fun k => [k]) hc
  · exact kindOf?_stepCommands hcs

/-- There is something to quote, and with a fixed output there is one command. -/
lemma length_of_commands (h : commands amount t r = .ok (cs, kinds)) :
    0 < kinds.length ∧ (t = .exactOutput → kinds.length = 1) := by
  obtain ⟨c, -, -, rfl⟩ | ⟨rfl, b, -, -, rfl⟩ := commands_cases h
  · exact ⟨Nat.one_pos, fun _ => rfl⟩
  · refine ⟨?_, nofun⟩
    rw [stepOutputs, List.length_map]
    exact List.length_pos_iff.mpr b.steps_ne_nil

lemma ofRoute_eq_ok : ofRoute r amount t = .ok q ↔ ∃ cs, commands amount t r = .ok (cs, q.outputs) ∧
    q.plan = .ofCommands cs ∧ q.fees = r.pools.map Pool.fee ∧ q.tradeType = t ∧
      q.amount = amount := by
  simp only [ofRoute, bind_eq_ok, pure_eq_ok, Prod.exists]
  constructor
  · rintro ⟨cs, kinds, hcs, rfl⟩
    exact ⟨cs, hcs, rfl, rfl, rfl, rfl⟩
  · rintro ⟨cs, hcs, hplan, hfees, ht, hamount⟩
    refine ⟨cs, _, hcs, ?_⟩
    rw [← hplan, ← hfees, ← ht, ← hamount]

/-! ### Reading outputs -/

/-- An output of a form holds what it tells. A vault tells an amount alone. -/
inductive Tells : OutputKind → Bytes → Output → Prop
  | swap {raw : Bytes} {out gas : Amount} {prices : List (BitVec 160)}
      (h : swapOutput.decode raw = some (out, prices, gas)) : Tells .swap raw ⟨out, prices, gas⟩
  | vault {raw : Bytes} {out : Amount} (h : vaultOutput.decode raw = some out) :
      Tells .vault raw ⟨out, [], 0⟩

lemma decodeOutput_eq_ok {kind : OutputKind} {raw : Bytes} {o : Output} :
    decodeOutput kind raw = .ok o ↔ Tells kind raw o := by
  constructor
  · intro h
    cases kind with
    | swap =>
        simp only [decodeOutput, decodeSwap] at h
        split at h
        · rename_i hraw
          obtain rfl := Except.ok.inj h
          exact .swap hraw
        · cases h
    | vault =>
        simp only [decodeOutput, decodeVault] at h
        split at h
        · rename_i hraw
          obtain rfl := Except.ok.inj h
          exact .vault hraw
        · cases h
  · intro h
    cases h with
    | swap h => simp only [decodeOutput, decodeSwap, h]
    | vault h => simp only [decodeOutput, decodeVault, h]

/-- The result of what the outputs of a plan tell. -/
def result (q : QuotePlan) (outputs : List Output) : QuoteResult where
  amountsOut := match q.tradeType with
    | .exactInput => outputs.map Output.amount
    | .exactOutput => List.replicate outputs.length q.amount
  amountsIn := match q.tradeType with
    | .exactInput => (q.amount :: outputs.map Output.amount).take outputs.length
    | .exactOutput => outputs.map Output.amount
  sqrtPrices := outputs.map Output.sqrtPrices
  gasEstimate := Amount.sumCapped (outputs.map Output.gas)
  fees := q.fees

lemma decode_eq_ok {raw : List Bytes} {res : QuoteResult} : q.decode raw = .ok res ↔
    raw.length = q.outputs.length ∧ ∃ outputs,
      List.Forall₂ (fun (kind, bs) o => Tells kind bs o) (q.outputs.zip raw) outputs ∧
        q.result outputs = res := by
  unfold decode
  split
  · rename_i hlen
    exact iff_of_false nofun fun h => hlen h.1
  · rename_i hlen
    rw [ne_eq, not_not] at hlen
    simp only [bind_eq_ok, pure_eq_ok, mapM_eq_ok, decodeOutput_eq_ok, hlen, true_and, result]
    cases q.tradeType <;> simp [Function.comp_def]

/-- Outputs are read where there is one for each command and each has its form. -/
lemma exists_decode {raw : List Bytes} : (∃ res, q.decode raw = .ok res) ↔
    List.Forall₂ (fun kind bs => ∃ o, Tells kind bs o) q.outputs raw := by
  have hread : (∃ outputs, List.Forall₂ (fun (kind, bs) o => Tells kind bs o)
      (q.outputs.zip raw) outputs) ↔ ∀ a ∈ q.outputs.zip raw, ∃ o, Tells a.1 a.2 o := by
    simp only [← decodeOutput_eq_ok, ← mapM_eq_ok]
    exact exists_mapM
  rw [List.forall₂_iff_zip]
  simp only [decode_eq_ok]
  constructor
  · rintro ⟨res, hlen, outputs, houtputs, -⟩
    exact ⟨hlen.symm, fun h => hread.mp ⟨outputs, houtputs⟩ _ h⟩
  · rintro ⟨hlen, hall⟩
    obtain ⟨outputs, houtputs⟩ := hread.mpr fun _ h => hall h
    exact ⟨_, hlen.symm, outputs, houtputs, rfl⟩

/-- A result gives what outputs tell, one entry for each. With a fixed input every step spends what
the one before put out. -/
structure Spells (r : Route) (amount : Amount) (t : TradeType) (outputs : List Output)
    (res : QuoteResult) : Prop where
  length_amountsIn : res.amountsIn.length = outputs.length
  length_amountsOut : res.amountsOut.length = outputs.length
  sqrtPrices : res.sqrtPrices = outputs.map Output.sqrtPrices
  gasEstimate : res.gasEstimate.toNat = min (outputs.map fun o => o.gas.toNat).sum (2 ^ 256 - 1)
  fees : res.fees = r.pools.map Pool.fee
  exactInput : t = .exactInput → res.amountsIn.head? = some amount ∧
    res.amountsOut = outputs.map Output.amount ∧
    ∀ i, i + 1 < outputs.length → res.amountsIn[i + 1]? = res.amountsOut[i]?
  exactOutput : t = .exactOutput →
    ∃ o, outputs = [o] ∧ res.amountsIn = [o.amount] ∧ res.amountsOut = [amount]

lemma length_of_forall₂ {raw : List Bytes} {outputs : List Output}
    (hlen : raw.length = q.outputs.length)
    (h : List.Forall₂ (fun (kind, bs) o => Tells kind bs o) (q.outputs.zip raw) outputs) :
    outputs.length = q.outputs.length := by
  rw [← h.length_eq, List.length_zip, hlen, Nat.min_self]

lemma spells_result {outputs : List Output} (h : ofRoute r amount t = .ok q)
    (hlen : outputs.length = q.outputs.length) : Spells r amount t outputs (q.result outputs) := by
  obtain ⟨cs, hcs, -, hfees, rfl, rfl⟩ := ofRoute_eq_ok.mp h
  obtain ⟨hpos, hone⟩ := length_of_commands hcs
  rw [← hlen] at hpos hone
  refine ⟨?_, ?_, rfl, ?_, hfees, fun ht => ?_, fun ht => ?_⟩
  · simp only [result]
    cases q.tradeType <;> simp
  · simp only [result]
    cases q.tradeType <;> simp
  · rw [result, Amount.toNat_sumCapped_eq_min, List.map_map]
    rfl
  · simp only [result, ht]
    refine ⟨?_, trivial, fun i hi => ?_⟩
    · rw [List.head?_take, if_neg (Nat.ne_of_gt hpos), List.head?_cons]
    · rw [List.getElem?_take_of_lt hi, List.getElem?_cons_succ]
  · obtain ⟨o, rfl⟩ := List.length_eq_one_iff.mp (hone ht)
    simp only [result, ht]
    exact ⟨o, rfl, rfl, rfl⟩

/-- **The outputs of a quote are read as its commands gave them.** -/
theorem ofRoute_answered (h : ofRoute r amount t = .ok q) :
    (q.plan.entries.map fun e => OutputKind.ofOpcode? e.opcode) = q.outputs.map some ∧
    (∀ raw, (∃ res, q.decode raw = .ok res) ↔
      List.Forall₂ (fun kind bs => ∃ o, Tells kind bs o) q.outputs raw) ∧
    ∀ raw res, q.decode raw = .ok res → ∃ outputs : List Output,
      outputs.length = q.plan.size ∧
      List.Forall₂ (fun (kind, bs) o => Tells kind bs o) (q.outputs.zip raw) outputs ∧
      Spells r amount t outputs res := by
  obtain ⟨cs, hcs, hplan, -⟩ := ofRoute_eq_ok.mp h
  have hkinds := kindOf?_commands hcs
  refine ⟨?_, fun raw => exists_decode, fun raw res hres => ?_⟩
  · rw [hplan, Plan.ofCommands, List.map_map, ← hkinds]
    rfl
  · obtain ⟨hlen, outputs, houtputs, rfl⟩ := decode_eq_ok.mp hres
    have hlength := length_of_forall₂ hlen houtputs
    refine ⟨outputs, ?_, houtputs, spells_result h hlength⟩
    rw [hlength, hplan, Plan.ofCommands, Plan.size, List.length_map]
    simpa using (congrArg List.length hkinds).symm

end QuotePlan

/-! ### Five answers -/

namespace QuotePlan.Sample

open Path.Sample (crossing)

/-- A deposit, a swap, a redemption, a swap and a deposit. The last swap claims all the gas. -/
def answers : List Bytes :=
  [vaultOutput.encode 90, swapOutput.encode (80, [7], 21000), vaultOutput.encode 70,
    swapOutput.encode (60, [8, 9], BitVec.allOnes 256), vaultOutput.encode 50]

def result : QuoteResult where
  amountsOut := [90, 80, 70, 60, 50]
  amountsIn := [100, 90, 80, 70, 60]
  sqrtPrices := [[], [7], [], [8, 9], []]
  gasEstimate := BitVec.allOnes 256
  fees := [0, 0]

/-- The answers to the five steps of a route, one after the other. -/
theorem crossing_answered : ∃ q, ofRoute (.boosted crossing) 100 .exactInput = .ok q ∧
    (q.plan.entries.map fun e => OutputKind.ofOpcode? e.opcode) = q.outputs.map some ∧
    q.decode answers = .ok result ∧
    ∃ outputs, Spells (.boosted crossing) 100 .exactInput outputs result := by
  have hdecode : (ofRoute (.boosted crossing) 100 .exactInput >>= fun q =>
      q.decode answers).toOption = some result := by decide +kernel
  obtain ⟨q, hq, hresult⟩ := bind_eq_ok.mp (eq_ok_of_toOption hdecode)
  obtain ⟨hkinds, -, hspells⟩ := ofRoute_answered hq
  obtain ⟨outputs, -, -, houtputs⟩ := hspells answers result hresult
  exact ⟨q, hq, hkinds, hresult, outputs, houtputs⟩

end QuotePlan.Sample

end SwapPlan

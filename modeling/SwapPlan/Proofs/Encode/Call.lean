import SwapPlan.Proofs.Calldata
import SwapPlan.Proofs.Encode.Held
import SwapPlan.Proofs.Ledger.Custody

/-!
Calls for trades, read back. The inputs of a trade's commands hold them, so an interpreter reads
from a call just the commands of the trade.
-/

namespace SwapPlan

namespace Trade

variable {t : Trade} {o : SwapOptions} {call : CallParameters}

lemma callParameters_eq_ok (h : t.callParameters o = .ok call) :
    ∃ cs, t.commands o = .ok (cs, call.value) ∧
      call.calldata = Calldata.encode (Plan.ofCommands cs).commands (Plan.ofCommands cs).inputs
        o.deadline := by
  simp only [callParameters, bind_eq_ok, pure_eq_ok, Prod.exists] at h
  obtain ⟨p, value, hplan, rfl⟩ := h
  obtain ⟨cs, hcs, rfl⟩ := plan_eq_ok.mp hplan
  exact ⟨cs, hcs, rfl⟩

/-- **A call is read as the plan that it was written from, and the call of a trade as the commands
of the trade, the permit first.** -/
theorem calls_recovered :
    (∀ (p : Plan) (deadline : Option Amount),
      (Calldata.encode p.commands p.inputs deadline).length < 2 ^ 63 →
        Calldata.decode (Calldata.encode p.commands p.inputs deadline) =
            .ok (p.commands, p.inputs, deadline) ∧
          Plan.ofParts p.commands p.inputs = .ok p) ∧
      ∀ (t : Trade) (o : SwapOptions) (call : CallParameters), t.callParameters o = .ok call →
        call.calldata.length < 2 ^ 63 →
          ∃ commands inputs p cs,
            Calldata.decode call.calldata = .ok (commands, inputs, o.deadline) ∧
              Plan.ofParts commands inputs = .ok p ∧ t.plan o = .ok (p, call.value) ∧
              t.commands o = .ok (cs, call.value) ∧
              List.Forall₂ (fun (e : Plan.Entry) c => e.decode = .ok c ∧ e.allowRevert = false)
                p.entries cs ∧
              o.permit.toList.map .permit2Permit <+: cs := by
  refine ⟨fun p deadline hlen => ⟨Calldata.decode_encode (by omega), p.ofParts_parts⟩, ?_⟩
  intro t o call h hlen
  obtain ⟨cs, hcs, hcalldata⟩ := callParameters_eq_ok h
  have hread : Calldata.decode call.calldata =
      .ok ((Plan.ofCommands cs).commands, (Plan.ofCommands cs).inputs, o.deadline) := by
    rw [hcalldata] at hlen ⊢
    exact Calldata.decode_encode (by omega)
  -- Every input lies in the call, so that the bound on the call bounds it too.
  have hinputs : ∀ input ∈ (Plan.ofCommands cs).inputs, input.length < 2 ^ 256 := by
    intro input hinput
    have hle : input.length ≤ call.calldata.length := by
      rw [hcalldata]
      exact Calldata.length_input_le hinput
    omega
  have hpermit : o.permit.toList.map .permit2Permit <+: cs := by
    obtain ⟨_, _, _, _, _, -, -, -, -, rfl, -⟩ := commands_eq_ok hcs
    exact List.prefix_append _ _
  exact ⟨_, _, .ofCommands cs, cs, hread, Plan.ofParts_parts _, plan_eq_ok.mpr ⟨cs, hcs, rfl⟩, hcs,
    Plan.decode_entries (capped_of_commands hcs) hinputs, hpermit⟩

end Trade

namespace Sample

/-- A permit with the largest times that a trade takes. -/
def lastPermit : Permit :=
  { permit with expiration := 0xffffffffffff, nonce := 0xffffffffffff }

def permitted : SwapOptions :=
  { options with deadline := some 1700000000, permit := some lastPermit }

/-- The call of a trade, with a permit and a deadline, and a plan with a mark are read back. -/
theorem calls_read :
    (∃ call commands inputs p, (trade .exactOutput 60).callParameters permitted = .ok call ∧
      Calldata.decode call.calldata = .ok (commands, inputs, some 1700000000) ∧
      Plan.ofParts commands inputs = .ok p ∧
      p.entries.head?.map Plan.Entry.decode = some (.ok (.permit2Permit lastPermit))) ∧
    ∃ p : Plan, p = ⟨[⟨.executeSubPlan, true, [1, 2, 3]⟩]⟩ ∧
      Calldata.decode (Calldata.encode p.commands p.inputs none) =
        .ok (p.commands, p.inputs, none) := by
  refine ⟨?_, _, rfl, (Trade.calls_recovered.1 _ none (by decide +kernel)).1⟩
  have hcall : (((trade .exactOutput 60).callParameters permitted).toOption.map
      fun call => decide (call.calldata.length < 2 ^ 63)) = some true := by decide +kernel
  obtain ⟨call, hcall, hlen⟩ := Option.map_eq_some_iff.mp hcall
  have hcall := eq_ok_of_toOption hcall
  obtain ⟨commands, inputs, p, cs, hread, hparts, -, -, hentries, hpermit⟩ :=
    Trade.calls_recovered.2 _ _ call hcall (of_decide_eq_true hlen)
  refine ⟨call, commands, inputs, p, hcall, hread, hparts, ?_⟩
  obtain ⟨rest, rfl⟩ := hpermit
  obtain ⟨e, entries, ⟨hfirst, -⟩, -, hp⟩ := List.forall₂_cons_right_iff.mp hentries
  rw [hp]
  exact congrArg some hfirst

end Sample

end SwapPlan

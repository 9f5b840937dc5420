import SwapPlan.Quote.Rpc
import SwapPlan.Proofs.Calldata

/-!
Batches on the wire. A batch is sent as one call whose data holds the calldata of every plan, and
comes back as one list of outcomes, each with data of its own. What was put in is found again on the
other side, however long the parts are, and every outcome is read by itself.
-/

namespace SwapPlan.Rpc

open Abi (Layout)

variable {quoter multicall : Address} {cs : List QuoteCall} {c : QuoteCall}
  {results : List (Bool × Bytes)}

/-! ### Layouts -/

lemma reads_outputs (outs : List Bytes) : outputs.Reads outs outs :=
  Layout.reads_array (by decide) fun bs _ => Layout.reads_bytes bs

lemma reads_aggregateCalls (calls : List (Address × Bool × Bytes)) :
    aggregateCalls.Reads calls calls :=
  Layout.reads_array (by decide) fun (target, allow, data) _ =>
    ((Layout.reads_address target).pair
      ((Layout.reads_bool allow).pair (Layout.reads_bytes data))).nested

lemma reads_aggregateResults (results : List (Bool × Bytes)) :
    aggregateResults.Reads results results :=
  Layout.reads_array (by decide) fun (success, data) _ =>
    ((Layout.reads_bool success).pair (Layout.reads_bytes data)).nested

/-! ### Calls -/

/-- One plan of a batch: target, leave to fail, and calldata. -/
def callOf (quoter : Address) (c : QuoteCall) : Address × Bool × Bytes :=
  (quoter, true, executeCalldata c)

lemma length_executeCalldata_le (h : c ∈ cs) :
    (executeCalldata c).length ≤ (aggregateCalldata quoter cs).length := by
  have hcall : callOf quoter c ∈ cs.map (callOf quoter) := List.mem_map_of_mem h
  have hlen : (executeCalldata c).length ≤
      (aggregateCalls.encode (cs.map (callOf quoter))).length :=
    Layout.length_le_of_nested hcall fun _ hpart =>
      List.mem_append_right _ (List.mem_append_right _ hpart)
  rw [aggregateCalldata, List.length_append]
  exact Nat.le_trans hlen (Nat.le_add_left _ _)

/-- The calldata of a plan is a call of `execute` with its parts. -/
lemma execute_decode_executeCalldata (h : (executeCalldata c).length < 2 ^ 256) :
    (Calldata.behind? Calldata.executeSelector (executeCalldata c)).bind
      Calldata.execute.decode = some (c.commands, c.inputs) := by
  have hreads : Calldata.execute.Reads (c.commands, c.inputs) (c.commands, c.inputs) :=
    (Layout.reads_bytes _).pair
      (Layout.reads_array (by decide) fun bs _ => Layout.reads_bytes bs)
  rw [executeCalldata, Calldata.encode, List.length_append] at h
  rw [executeCalldata, Calldata.encode, Calldata.behind?_append rfl, Option.bind_some]
  exact hreads.decode_written (by omega)

lemma decode_aggregateCalldata (h : (aggregateCalldata quoter cs).length < 2 ^ 256) :
    (Calldata.behind? aggregateSelector (aggregateCalldata quoter cs)).bind
      aggregateCalls.decode = some (cs.map (callOf quoter)) := by
  rw [aggregateCalldata, List.length_append] at h
  have hlen : (aggregateCalls.encode (cs.map (callOf quoter))).length < 2 ^ 256 :=
    Nat.lt_of_le_of_lt (Nat.le_add_left _ _) h
  rw [aggregateCalldata, Calldata.behind?_append rfl, Option.bind_some]
  exact (reads_aggregateCalls _).decode_written hlen

/-! ### Outcomes -/

/-- What an outcome of a batch comes to, by itself. -/
inductive Settles : Bool × Bytes → Option (List Bytes) → Prop
  | failed (data : Bytes) : Settles (false, data) none
  | garbled {data : Bytes} (h : outputs.decode data = none) : Settles (true, data) none
  | answered {data : Bytes} {outs : List Bytes} (h : outputs.decode data = some outs) :
      Settles (true, data) (some outs)

lemma settles_decodeEntry (result : Bool × Bytes) :
    Settles result (decodeEntry result.1 result.2) := by
  obtain ⟨success, data⟩ := result
  cases success with
  | false => exact .failed data
  | true =>
      rw [decodeEntry, if_pos rfl]
      cases h : outputs.decode data with
      | none => exact .garbled h
      | some outs => exact .answered h

/-- Outputs are found in the data of an outcome, whatever their number and lengths. -/
lemma decodeEntry_encode {outs : List Bytes}
    (hresults : (aggregateResults.encode results).length < 2 ^ 256)
    (h : (true, outputs.encode outs) ∈ results) :
    decodeEntry true (outputs.encode outs) = some outs := by
  have hlen : (outputs.encode outs).length ≤ (aggregateResults.encode results).length :=
    Layout.length_le_of_nested h fun _ hpart => List.mem_append_right _ hpart
  rw [decodeEntry, if_pos rfl]
  exact (reads_outputs outs).decode_written (by omega)

/-- What a batch comes to once its outcomes are there. -/
lemma decodeBatch_encode {count : Nat} (h : (aggregateResults.encode results).length < 2 ^ 256) :
    decodeBatch count (aggregateResults.encode results) =
      if results.length = count then .ok (results.map fun r => decodeEntry r.1 r.2)
      else .error (.multicallCount results.length count) := by
  rw [decodeBatch, (reads_aggregateResults results).decode_written h]

/-! ### A node -/

/-- A node whose answers may hang on all calls before. -/
structure Node where
  reply : (sent : List (Address × Bytes)) → (target : Address) → (data : Bytes) → Option Bytes

/-- A transport to a node that notes what is sent. -/
def Node.transport (n : Node) : Transport (StateM (List (Address × Bytes))) where
  call target data := fun sent => (n.reply sent target data, sent ++ [(target, data)])

lemma run_executeBatch (n : Node) (sent : List (Address × Bytes)) :
    ((backend n.transport quoter multicall).executeBatch cs).run.run sent =
      (match n.reply sent multicall (aggregateCalldata quoter cs) with
        | some data => decodeBatch cs.length data
        | none => .error .multicallFailed,
      sent ++ [(multicall, aggregateCalldata quoter cs)]) := by
  simp only [backend, ExceptT.run_bind, StateT.run_bind]
  have hcall : (liftM (n.transport.call multicall (aggregateCalldata quoter cs)) :
        ExceptT Error (StateM (List (Address × Bytes))) (Option Bytes)).run.run sent =
      (.ok (n.reply sent multicall (aggregateCalldata quoter cs)),
        sent ++ [(multicall, aggregateCalldata quoter cs)]) := rfl
  rw [hcall]
  cases n.reply sent multicall (aggregateCalldata quoter cs) <;> rfl

/-- **A batch reaches the quoter as it was asked for, and comes back outcome by outcome.** -/
theorem executeBatch_wired (n : Node) (quoter multicall : Address) (cs : List QuoteCall)
    (sent : List (Address × Bytes)) (hlen : (aggregateCalldata quoter cs).length < 2 ^ 256) :
    ∃ data outcome, ((backend n.transport quoter multicall).executeBatch cs).run.run sent =
        (outcome, sent ++ [(multicall, data)]) ∧
      (∃ calls, (Calldata.behind? aggregateSelector data).bind aggregateCalls.decode = some calls ∧
        List.Forall₂ (fun c (target, allowFailure, callData) =>
          target = quoter ∧ allowFailure = true ∧
          (Calldata.behind? Calldata.executeSelector callData).bind Calldata.execute.decode =
            some (c.commands, c.inputs)) cs calls) ∧
      ∀ results, (aggregateResults.encode results).length < 2 ^ 256 →
        n.reply sent multicall data = some (aggregateResults.encode results) →
        (results.length ≠ cs.length → outcome = .error (.multicallCount results.length cs.length)) ∧
        (results.length = cs.length → ∃ outcomes, outcome = .ok outcomes ∧
          List.Forall₂ (fun result answer => Settles result answer ∧
              ∀ outs, result = (true, outputs.encode outs) → answer = some outs)
            results outcomes) := by
  refine ⟨_, _, run_executeBatch n sent, ⟨_, decode_aggregateCalldata hlen, ?_⟩,
    fun results hresults hreply => ?_⟩
  · rw [List.forall₂_map_right_iff, List.forall₂_same]
    intro c hc
    exact ⟨rfl, rfl, execute_decode_executeCalldata
      (Nat.lt_of_le_of_lt (length_executeCalldata_le hc) hlen)⟩
  · simp only [hreply, decodeBatch_encode hresults]
    refine ⟨fun hne => if_neg hne, fun heq => ⟨_, if_pos heq, ?_⟩⟩
    rw [List.forall₂_map_right_iff, List.forall₂_same]
    refine fun result hmem => ⟨settles_decodeEntry result, ?_⟩
    rintro outs rfl
    exact decodeEntry_encode hresults hmem

end SwapPlan.Rpc

/-! ### Three calls -/

namespace SwapPlan.Rpc.Sample

def quoter : Address := .ofNat 0x51

/-- Plans of two commands, of none, and of one with a long input. -/
def calls : List QuoteCall := [⟨[0x00, 0x14], [[1], [2, 3]]⟩, ⟨[], []⟩, ⟨[0x08], [Bytes.zeros 33]⟩]

/-- One success, one failure, and data that cannot be read. -/
def results : List (Bool × Bytes) :=
  [(true, outputs.encode [[7, 8], []]), (false, [1]), (true, [1, 2, 3])]

/-- A node that loses the last outcome of every call but the first. -/
def node : Node where
  reply sent _ _ := some (aggregateResults.encode (if sent = [] then results else results.dropLast))

theorem calls_wired :
    (∃ sent, ((backend node.transport quoter Chain.multicall3).executeBatch calls).run.run [] =
      (.ok [some [[7, 8], []], none, none], sent)) ∧
    ∃ sent, ((backend node.transport quoter Chain.multicall3).executeBatch calls).run.run
      [(quoter, [])] = (.error (.multicallCount 2 3), sent) := by
  have hlen : (aggregateCalldata quoter calls).length < 2 ^ 256 := by decide +kernel
  constructor
  · obtain ⟨data, outcome, hrun, -, hreplied⟩ :=
      executeBatch_wired node quoter Chain.multicall3 calls [] hlen
    obtain ⟨outcomes, rfl, hsettled⟩ := (hreplied results (by decide +kernel) rfl).2 rfl
    rcases hsettled with _ | ⟨⟨-, hfirst⟩, _ | ⟨⟨hsecond, -⟩, _ | ⟨⟨hthird, -⟩, _ | _⟩⟩⟩
    obtain rfl := hfirst _ rfl
    cases hsecond
    cases hthird with
    | garbled => exact ⟨_, hrun⟩
    | answered h =>
        have hshort : outputs.decode [1, 2, 3] = none := by decide
        rw [hshort] at h
        cases h
  · obtain ⟨data, outcome, hrun, -, hreplied⟩ :=
      executeBatch_wired node quoter Chain.multicall3 calls [(quoter, [])] hlen
    obtain rfl := (hreplied results.dropLast (by decide +kernel) rfl).1 (by decide)
    exact ⟨_, hrun⟩

end SwapPlan.Rpc.Sample

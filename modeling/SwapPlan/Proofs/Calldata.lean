import SwapPlan.Calldata
import SwapPlan.Proofs.Command
import SwapPlan.Proofs.Plan.Parts

/-!
What an interpreter reads of a call: the commands and the inputs that were written, of which the
plan is put together again, and in its entries the typed commands.
-/

namespace SwapPlan

/-! ### Typed commands of a plan -/

namespace Plan

variable {cs : List Command}

/-- Entries of commands that their inputs hold are read as the commands. -/
lemma decode_entries (hcapped : ∀ c ∈ cs, c.capped = c)
    (hlen : ∀ input ∈ (ofCommands cs).inputs, input.length < 2 ^ 256) :
    List.Forall₂ (fun (e : Entry) c => e.decode = .ok c ∧ e.allowRevert = false)
      (ofCommands cs).entries cs := by
  rw [ofCommands, List.forall₂_map_left_iff, List.forall₂_same]
  intro c hc
  have hmem : c.encode ∈ (ofCommands cs).inputs := by
    rw [inputs, ofCommands, List.map_map]
    exact List.mem_map_of_mem hc
  have hread := Command.decode_encode (hlen _ hmem)
  rw [hcapped c hc] at hread
  exact ⟨hread, rfl⟩

end Plan

/-! ### Calls -/

namespace Calldata

open Abi

variable {commands : Bytes} {inputs : List Bytes} {deadline : Option Amount}

lemma behind?_append {selector params : Bytes} (h : selector.length = 4) :
    behind? selector (selector ++ params) = some params := by
  rw [behind?, List.take_left' h, if_pos rfl, List.drop_left' h]

/-- A call is read as it was written, with its deadline if it has one. -/
lemma decode_encode (h : (encode commands inputs deadline).length < 2 ^ 256) :
    decode (encode commands inputs deadline) = .ok (commands, inputs, deadline) := by
  have hcommands := Layout.reads_bytes commands
  have hinputs : (Layout.array .bytes).Reads inputs inputs :=
    Layout.reads_array (by decide) fun bs _ => Layout.reads_bytes bs
  have hlen {selector params : Bytes} (h : (selector ++ params).length < 2 ^ 256) :
      params.length < 2 ^ 256 := by
    rw [List.length_append] at h
    omega
  cases deadline with
  | some d =>
      have hdeadline := Layout.reads_uint (by decide) d
      have hread : timedExecute.decode (timedExecute.encode (commands, inputs, d)) = _ :=
        (hcommands.pair (hinputs.pair hdeadline)).decode_written (hlen h)
      rw [encode, decode, behind?_append rfl, Option.bind_some, hread]
  | none =>
      have hread : execute.decode (execute.encode (commands, inputs)) = _ :=
        (hcommands.pair hinputs).decode_written (hlen h)
      have hother : behind? timedExecuteSelector
          (executeSelector ++ execute.encode (commands, inputs)) = none := by
        rw [behind?, List.take_left' (show executeSelector.length = 4 from rfl),
          if_neg (by decide)]
      rw [encode, decode, hother, Option.bind_none, behind?_append rfl, Option.bind_some, hread]

/-- A call holds each of its inputs. -/
lemma length_input_le {input : Bytes} (h : input ∈ inputs) :
    input.length ≤ (encode commands inputs deadline).length := by
  cases deadline with
  | some d =>
      have : input.length ≤ (timedExecute.encode (commands, inputs, d)).length :=
        Layout.length_le_of_mem h fun part hpart =>
          List.mem_append_right _ (List.mem_append_left _ hpart)
      rw [encode, List.length_append]
      omega
  | none =>
      have : input.length ≤ (execute.encode (commands, inputs)).length :=
        Layout.length_le_of_mem h fun part hpart => List.mem_append_right _ hpart
      rw [encode, List.length_append]
      omega

end Calldata

end SwapPlan

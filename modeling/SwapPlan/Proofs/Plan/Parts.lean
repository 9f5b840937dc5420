import SwapPlan.Plan
import SwapPlan.Proofs.Outcome

/-!
The parts of a plan: its command bytes and its inputs. A command byte holds an opcode and a flag,
and one bit that is ignored. So the parts of a plan give the plan again, and any bytes and inputs that
are read as a plan are its parts, up to that bit.
-/

namespace SwapPlan

/-! ### One byte -/

namespace Opcode

variable {b : UInt8} {o : Opcode}

/-- An opcode is read off the bits that hold it. No two opcodes have one byte. -/
lemma ofByte?_eq_some : ofByte? b = some o ↔ o.byte = b &&& mask := by
  constructor
  · intro h
    simpa using List.find?_some h
  · intro h
    have hmask : o.byte &&& mask = b &&& mask := by rw [h, UInt8.and_assoc, UInt8.and_self]
    have hread := ofByte?_byte o
    simp only [ofByte?, hmask] at hread ⊢
    exact hread

lemma exists_ofByte? : (∃ o, ofByte? b = some o) ↔ ∃ o ∈ all, o.byte = b &&& mask := by
  simp only [ofByte?_eq_some, mem_all, true_and]

/-! The flag and the ignored bit are single bits: what holds of them is checked on all bytes. -/

lemma and_revertFlag (b : UInt8) : b &&& revertFlag = 0 ∨ b &&& revertFlag = revertFlag := by
  obtain ⟨b⟩ := b
  revert b
  decide

/-- Beside its opcode and its flag a byte has one bit. -/
lemma mask_or_revertFlag (b : UInt8) : b &&& mask ||| b &&& revertFlag = b &&& ~~~0x40 := by
  obtain ⟨b⟩ := b
  revert b
  decide

lemma clear_and_mask (b : UInt8) : b &&& ~~~0x40 &&& mask = b &&& mask := by
  rw [UInt8.and_assoc]
  rfl

lemma clear_and_revertFlag (b : UInt8) : b &&& ~~~0x40 &&& revertFlag = b &&& revertFlag := by
  rw [UInt8.and_assoc]
  rfl

end Opcode

namespace Plan

namespace Entry

variable {b : UInt8} {input : Bytes} {e : Entry}

lemma of_ofByte (h : ofByte b input = .ok e) : e.byte = b &&& ~~~0x40 ∧ e.input = input := by
  unfold ofByte at h
  split at h
  · rename_i o ho
    obtain rfl := Except.ok.inj h
    refine ⟨?_, rfl⟩
    rw [← Opcode.mask_or_revertFlag, ← Opcode.ofByte?_eq_some.mp ho]
    rcases Opcode.and_revertFlag b with hflag | hflag
    · simp [byte, hflag]
    · simp [byte, hflag, Opcode.revertFlag_ne_zero]
  · cases h

/-- An entry is read from its own byte, with the ignored bit set or not. -/
lemma ofByte_eq_ok : ofByte b input = .ok e ↔ e.byte = b &&& ~~~0x40 ∧ e.input = input := by
  constructor
  · exact of_ofByte
  · rintro ⟨hbyte, rfl⟩
    have hread := ofByte_byte e
    have hopcode : Opcode.ofByte? b = Opcode.ofByte? e.byte := by
      simp only [Opcode.ofByte?, hbyte, Opcode.clear_and_mask]
    have hflag : b &&& Opcode.revertFlag = e.byte &&& Opcode.revertFlag := by
      rw [hbyte, Opcode.clear_and_revertFlag]
    -- The bytes agree in all that is read; a refusal alone would name the byte itself.
    unfold ofByte at hread ⊢
    rw [hopcode, hflag]
    cases ho : Opcode.ofByte? e.byte with
    | none =>
        rw [ho] at hread
        cases hread
    | some o =>
        rw [ho] at hread
        exact hread

lemma byte_clear (e : Entry) : e.byte &&& ~~~0x40 = e.byte :=
  (of_ofByte (ofByte_byte e)).1.symm

lemma exists_ofByte : (∃ e, ofByte b input = .ok e) ↔
    ∃ o ∈ Opcode.all, o.byte = b &&& Opcode.mask := by
  rw [← Opcode.exists_ofByte?, ofByte]
  cases Opcode.ofByte? b <;> simp

end Entry

/-! ### All of them -/

variable {p : Plan} {commands : Bytes} {inputs : List Bytes}

lemma mapM_ofByte_eq_ok {entries : List Entry} (hlen : commands.length = inputs.length) :
    (commands.zip inputs).mapM (fun (b, input) => Entry.ofByte b input) = .ok entries ↔
      entries.map Entry.byte = commands.map (· &&& ~~~0x40) ∧
        entries.map Entry.input = inputs := by
  simp only [mapM_eq_ok, Entry.ofByte_eq_ok]
  induction commands generalizing inputs entries with
  | nil =>
      obtain rfl := List.eq_nil_of_length_eq_zero hlen.symm
      simp
  | cons b commands ih =>
      match inputs, hlen with
      | input :: inputs, hlen =>
      have hrest {entries : List Entry} := @ih inputs entries (Nat.succ.inj hlen)
      simp only [List.zip_cons_cons, List.forall₂_cons_left_iff, hrest]
      constructor
      · rintro ⟨e, entries, ⟨hbyte, hinput⟩, ⟨hbytes, hinputs⟩, rfl⟩
        simp [hbyte, hinput, hbytes, hinputs]
      · rintro ⟨hbytes, hinputs⟩
        obtain ⟨e, entries, rfl, hbyte, hbytes⟩ := List.map_eq_cons_iff.mp hbytes
        obtain ⟨hinput, hinputs⟩ := List.cons.inj hinputs
        exact ⟨e, entries, ⟨hbyte, hinput⟩, ⟨hbytes, hinputs⟩, rfl⟩

/-- **A plan is read from its own parts, whatever the ignored bits.** -/
lemma ofParts_eq_ok : ofParts commands inputs = .ok p ↔
    p.commands = commands.map (· &&& ~~~0x40) ∧ p.inputs = inputs := by
  obtain ⟨entries⟩ := p
  unfold ofParts
  split_ifs with hlen
  · refine iff_of_false (by simp) ?_
    rintro ⟨hcommands, rfl⟩
    have hsame := congrArg List.length hcommands
    rw [length_commands, List.length_map, ← length_inputs] at hsame
    exact hlen hsame.symm
  · simp only [bind_eq_ok, pure_eq_ok, mk.injEq, exists_eq_right]
    exact mapM_ofByte_eq_ok (not_not.mp hlen)

/-- A plan is put together again from its parts, the flags of its entries included. -/
lemma ofParts_parts (p : Plan) : ofParts p.commands p.inputs = .ok p := by
  rw [ofParts_eq_ok, commands, List.map_map]
  exact ⟨List.map_congr_left fun e _ => e.byte_clear.symm, rfl⟩

lemma exists_ofParts : (∃ p, ofParts commands inputs = .ok p) ↔
    commands.length = inputs.length ∧
      ∀ b ∈ commands, ∃ o ∈ Opcode.all, o.byte = b &&& Opcode.mask := by
  unfold ofParts
  split_ifs with hlen
  · exact iff_of_false (by simp) fun h => hlen h.1
  · have hlen := not_not.mp hlen
    have hfst : (commands.zip inputs).map Prod.fst = commands := List.map_fst_zip (Nat.le_of_eq hlen)
    rw [exists_bind_pure, exists_mapM, and_iff_right hlen]
    simp only [Entry.exists_ofByte]
    conv_rhs => rw [← hfst, List.forall_mem_map]

/-- **Reading a plan from its parts and taking it into parts are inverse.** Parts are read just where
each byte has an input and holds an opcode of the table; what is read has these inputs, and these
bytes but for the ignored bit. The parts of a plan give the plan. -/
theorem ofParts_inverse :
    (∀ commands inputs, (∃ p, ofParts commands inputs = .ok p) ↔
      commands.length = inputs.length ∧
        ∀ b ∈ commands, ∃ o ∈ Opcode.all, o.byte = b &&& Opcode.mask) ∧
    (∀ commands inputs p, ofParts commands inputs = .ok p ↔
      p.commands = commands.map (· &&& ~~~0x40) ∧ p.inputs = inputs) ∧
    ∀ p : Plan, ofParts p.commands p.inputs = .ok p :=
  ⟨fun _ _ => exists_ofParts, fun _ _ _ => ofParts_eq_ok, ofParts_parts⟩

/-- A marked plan and a command, both with the ignored bit set. -/
example : ofParts [0xe1, 0x44] [[], [7]] =
    .ok ⟨[⟨.executeSubPlan, true, []⟩, ⟨.sweep, false, [7]⟩]⟩ := rfl

end Plan

end SwapPlan

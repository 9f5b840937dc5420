import SwapPlan.Plan
import SwapPlan.Proofs.Command

/-!
Plans that are put together side by side. Each grows by commands of its own, by commands that hold a
whole plan, and by the entries of the others. In whatever order this is done, every entry is that of
one command, with a mark only if the command holds a plan, and stays where it came to stand.
-/

namespace SwapPlan.Plan

variable {p q : Plan} {c : Command} {allowRevert : Bool}

/-! ### Entries of commands -/

namespace Entry

/-- The entry was written from a command, and is marked only if that holds a plan. -/
def Written (e : Entry) : Prop :=
  ∃ c allowRevert, e = ofCommand c allowRevert ∧ (allowRevert = true → c.opcode = .executeSubPlan)

variable {e : Entry}

lemma byte_and_revertFlag_ne_zero : e.byte &&& Opcode.revertFlag ≠ 0 ↔ e.allowRevert = true := by
  obtain ⟨o, allowRevert, input⟩ := e
  cases allowRevert <;> simp [byte, Opcode.revertFlag_ne_zero]

lemma Written.marked (h : e.Written) (hmark : e.allowRevert = true) :
    e.opcode = .executeSubPlan := by
  obtain ⟨c, allowRevert, rfl, hplan⟩ := h
  exact hplan hmark

lemma Written.exists_decode (h : e.Written) (hlen : e.input.length < 2 ^ 63) :
    ∃ c, e.decode = .ok c ∧ c.opcode = e.opcode := by
  obtain ⟨c, allowRevert, rfl, -⟩ := h
  have hread := c.decode_encode (Nat.lt_trans hlen (by decide))
  exact ⟨c.capped, hread, (Command.of_decode hread).1⟩

end Entry

lemma pushRevertible_eq_ok : p.pushRevertible c allowRevert = .ok q ↔
    (allowRevert = true → c.opcode = .executeSubPlan) ∧ q = p ++ ⟨[.ofCommand c allowRevert]⟩ := by
  unfold pushRevertible Opcode.isRevertible
  split_ifs with h
  · simp_all
  · rw [Except.ok.injEq, eq_comm]
    simp_all
    rfl

lemma exists_pushRevertible_error : (∃ e, p.pushRevertible c allowRevert = .error e) ↔
    allowRevert = true ∧ c.opcode ≠ .executeSubPlan := by
  unfold pushRevertible Opcode.isRevertible
  split_ifs with h <;> simp_all

/-! ### Several plans -/

/-- A change of one of several plans, which are known by their numbers. What is nested may be any
plan, such as another of them as it is by then. -/
inductive Edit
  | push (i : Nat) (c : Command)
  | pushRevertible (i : Nat) (c : Command) (allowRevert : Bool)
  | pushSubPlan (i : Nat) (sub : (Nat → Plan) → Plan) (allowRevert : Bool)
  | append (i j : Nat)

namespace Edit

/-- The number of the plan that an edit changes. -/
def target : Edit → Nat
  | push i _ | pushRevertible i _ _ | pushSubPlan i _ _ | append i _ => i

/-- What an edit makes of the plan that it changes. -/
def outcome (plans : Nat → Plan) : Edit → Except Error Plan
  | push i c => .ok ((plans i).push c)
  | pushRevertible i c allowRevert => (plans i).pushRevertible c allowRevert
  | pushSubPlan i sub allowRevert => (plans i).pushSubPlan (sub plans) allowRevert
  | append i j => .ok (plans i ++ plans j)

/-- The plans after an edit, which are as before if it is refused. -/
def apply (plans : Nat → Plan) (e : Edit) : Nat → Plan :=
  match e.outcome plans with
  | .ok p => Function.update plans e.target p
  | .error _ => plans

def run (plans : Nat → Plan) (edits : List Edit) : Nat → Plan := edits.foldl apply plans

variable {plans : Nat → Plan} {e : Edit} {edits : List Edit} {i : Nat}

/-- An edit appends entries that are written from a command, or that another plan has. -/
lemma entries_of_outcome (h : e.outcome plans = .ok p) : ∃ es : List Entry,
    p.entries = (plans e.target).entries ++ es ∧
      ∀ entry ∈ es, entry.Written ∨ ∃ j, entry ∈ (plans j).entries := by
  have hone {p q : Plan} {c : Command} {allowRevert : Bool}
      (h : p.pushRevertible c allowRevert = .ok q) : ∃ es : List Entry,
      q.entries = p.entries ++ es ∧
        ∀ entry ∈ es, entry.Written ∨ ∃ j, entry ∈ (plans j).entries := by
    obtain ⟨hplan, rfl⟩ := pushRevertible_eq_ok.mp h
    exact ⟨_, rfl, List.forall_mem_singleton.mpr (.inl ⟨c, allowRevert, rfl, hplan⟩)⟩
  cases e with
  | push i c =>
      obtain rfl := Except.ok.inj h
      exact ⟨_, rfl, List.forall_mem_singleton.mpr (.inl ⟨c, false, rfl, by simp⟩)⟩
  | pushRevertible i c allowRevert => exact hone h
  | pushSubPlan i sub allowRevert => exact hone h
  | append i j =>
      obtain rfl := Except.ok.inj h
      exact ⟨_, rfl, fun entry hentry => .inr ⟨j, hentry⟩⟩

/-- An edit is refused just where it asks for a mark on another command than a plan. -/
lemma exists_outcome_error : (∃ err, e.outcome plans = .error err) ↔
    ∃ i c, e = .pushRevertible i c true ∧ c.opcode ≠ .executeSubPlan := by
  cases e with
  | push i c => simp [outcome]
  | append i j => simp [outcome]
  | pushRevertible i c allowRevert =>
      simp only [outcome, exists_pushRevertible_error, pushRevertible.injEq]
      constructor
      · rintro ⟨rfl, hplan⟩
        exact ⟨i, c, ⟨rfl, rfl, rfl⟩, hplan⟩
      · rintro ⟨_, _, ⟨rfl, rfl, rfl⟩, hplan⟩
        exact ⟨rfl, hplan⟩
  | pushSubPlan i sub allowRevert =>
      simp only [outcome, Plan.pushSubPlan, exists_pushRevertible_error]
      simp [Command.opcode]

lemma apply_of_ok (h : e.outcome plans = .ok p) :
    e.apply plans = Function.update plans e.target p := by
  simp only [apply, h]

lemma apply_of_error {err : Error} (h : e.outcome plans = .error err) : e.apply plans = plans := by
  simp only [apply, h]

/-! ### One edit, and any number of them -/

/-- **What one edit does to any plan.** -/
lemma exists_entries_apply (plans : Nat → Plan) (e : Edit) (i : Nat) : ∃ es : List Entry,
    (e.apply plans i).entries = (plans i).entries ++ es ∧
      ∀ entry ∈ es, entry.Written ∨ ∃ j, entry ∈ (plans j).entries := by
  have hsame : ∃ es : List Entry, (plans i).entries = (plans i).entries ++ es ∧
      ∀ entry ∈ es, entry.Written ∨ ∃ j, entry ∈ (plans j).entries :=
    ⟨[], (List.append_nil _).symm, fun entry h => absurd h List.not_mem_nil⟩
  cases h : e.outcome plans with
  | error err => rwa [apply_of_error h]
  | ok p =>
      rw [apply_of_ok h]
      by_cases hi : i = e.target
      · subst hi
        rw [Function.update_self]
        exact entries_of_outcome h
      · rwa [Function.update_of_ne hi]

lemma entries_prefix_run (plans : Nat → Plan) (edits : List Edit) (i : Nat) :
    (plans i).entries <+: (run plans edits i).entries := by
  induction edits generalizing plans with
  | nil => exact List.prefix_rfl
  | cons e edits ih =>
      obtain ⟨es, hentries, -⟩ := exists_entries_apply plans e i
      have hstep : (plans i).entries <+: (e.apply plans i).entries := ⟨es, hentries.symm⟩
      exact hstep.trans (ih (e.apply plans))

/-- Every entry of every plan was written from a command. -/
def AllWritten (plans : Nat → Plan) : Prop := ∀ i, ∀ entry ∈ (plans i).entries, entry.Written

lemma AllWritten.apply (h : AllWritten plans) (e : Edit) : AllWritten (e.apply plans) := by
  intro i
  obtain ⟨es, hentries, hes⟩ := exists_entries_apply plans e i
  rw [hentries]
  refine List.forall_mem_append.mpr ⟨h i, fun entry hentry => ?_⟩
  rcases hes entry hentry with hwritten | ⟨j, hj⟩
  · exact hwritten
  · exact h j entry hj

lemma AllWritten.run (h : AllWritten plans) (edits : List Edit) : AllWritten (run plans edits) := by
  induction edits generalizing plans with
  | nil => exact h
  | cons e edits ih => exact ih (h.apply e)

end Edit

/-! ### What a plan that grew from the empty one is like -/

/-- A plan whose command bytes and inputs go together. -/
structure Coherent (p : Plan) : Prop where
  length_eq : p.commands.length = p.inputs.length
  paired : p.commands.zip p.inputs = p.entries.map fun e => (e.byte, e.input)
  marked : ∀ e ∈ p.entries, e.byte &&& Opcode.revertFlag ≠ 0 → e.opcode = .executeSubPlan
  typed : ∀ e ∈ p.entries, e.input.length < 2 ^ 63 → ∃ c, e.decode = .ok c ∧ c.opcode = e.opcode

lemma coherent_of_written (h : ∀ e ∈ p.entries, e.Written) : p.Coherent where
  length_eq := by rw [length_commands, length_inputs]
  paired := List.zip_map'
  marked e he hmark := (h e he).marked (Entry.byte_and_revertFlag_ne_zero.mp hmark)
  typed e he hlen := (h e he).exists_decode hlen

/-- **Plans that grow side by side stay coherent, whatever is asked of them.** What stands in one
stays where it is. Just a mark on a command that holds no plan is refused, and then nothing is
changed. -/
theorem edits_coherent :
    (∀ edits i, (Edit.run (fun _ => .empty) edits i).Coherent) ∧
      (∀ plans edits i, (plans i).entries <+: (Edit.run plans edits i).entries) ∧
      ∀ plans e, ((∃ err, Edit.outcome plans e = .error err) ↔
          ∃ i c, e = .pushRevertible i c true ∧ c.opcode ≠ .executeSubPlan) ∧
        ∀ err, Edit.outcome plans e = .error err → e.apply plans = plans := by
  refine ⟨fun edits i => ?_, Edit.entries_prefix_run, fun plans e => ?_⟩
  · have hempty : Edit.AllWritten fun _ => .empty := fun i entry h => absurd h List.not_mem_nil
    exact coherent_of_written (hempty.run edits i)
  · exact ⟨Edit.exists_outcome_error, fun err => Edit.apply_of_error⟩

namespace Sample

def sweep : Command := .sweep (.ofNat 0xa1) (.ofNat 0x77) 5

/-- The first plan is nested in the second with a mark, and both are appended to the third. -/
def edits : List Edit := [.push 0 sweep, .pushSubPlan 1 (· 0) true, .append 2 1, .append 2 0]

/-- The third plan begins with a nested plan, and stays as it is where a mark on its last command is
asked for. -/
theorem third_coherent : ∃ e c, (Edit.run (fun _ => .empty) edits 2).entries[0]? = some e ∧
    e.allowRevert = true ∧ e.opcode = .executeSubPlan ∧ e.decode = .ok c ∧
      c.opcode = .executeSubPlan ∧
      (Edit.pushRevertible 2 sweep true).apply (Edit.run (fun _ => .empty) edits) =
        Edit.run (fun _ => .empty) edits := by
  obtain ⟨hcoherent, -, hrefused⟩ := edits_coherent
  obtain ⟨e, he, hmark, hlen⟩ : ∃ e,
      (Edit.run (fun _ => .empty) edits 2).entries[0]? = some e ∧ e.allowRevert = true ∧
        e.input.length < 2 ^ 63 := ⟨_, rfl, rfl, by decide +kernel⟩
  have hmem := List.mem_of_getElem? he
  have hopcode := (hcoherent edits 2).marked e hmem (Entry.byte_and_revertFlag_ne_zero.mpr hmark)
  obtain ⟨c, hdecode, hc⟩ := (hcoherent edits 2).typed e hmem hlen
  obtain ⟨hiff, hsame⟩ :=
    hrefused (Edit.run (fun _ => .empty) edits) (.pushRevertible 2 sweep true)
  obtain ⟨err, herr⟩ := hiff.mpr ⟨2, sweep, rfl, by decide⟩
  exact ⟨e, c, he, hmark, hopcode, hdecode, hc.trans hopcode, hsame err herr⟩

end Sample

end SwapPlan.Plan

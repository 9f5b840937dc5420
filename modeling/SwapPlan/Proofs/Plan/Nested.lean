import SwapPlan.Proofs.Calldata
import SwapPlan.Proofs.Outcome

/-!
Plans inside plans. A plan is nested as one command, whose input holds its command bytes and its
inputs, those of plans nested in it among them. An input is longer than every input that it holds,
so that a plan can be unpacked to the innermost commands, which gives the tree that it was put
together from.
-/

namespace SwapPlan

/-! ### Inputs inside an input -/

namespace Abi.Layout

variable {data bs : Bytes} {place count : Nat} {xs : List Bytes}

/-- What stands behind a length is shorter than the data in which an offset led to it. -/
lemma length_behind_lt {tail : Bytes} {n : Nat} (hfollow : followAt? data place = some tail)
    (hn : natAt? tail 0 = some n) : (tail.drop wordSize).length < data.length := by
  obtain ⟨offset, -, htail⟩ := Option.bind_eq_some_iff.mp hfollow
  obtain ⟨word, hword, -⟩ := Option.map_eq_some_iff.mp hn
  rw [Option.ite_none_right_eq_some, Option.some.injEq] at htail
  obtain ⟨-, rfl⟩ := htail
  rw [wordAt?, Option.ite_none_right_eq_some] at hword
  have hlen := hword.1
  simp only [List.length_drop, wordSize] at hlen ⊢
  omega

lemma length_lt_of_read_bytes (h : bytes.read data place = some bs) :
    bs.length < data.length := by
  obtain ⟨tail, hfollow, h⟩ := Option.bind_eq_some_iff.mp h
  obtain ⟨length, hlength, h⟩ := Option.bind_eq_some_iff.mp h
  rw [Option.ite_none_right_eq_some, Option.some.injEq] at h
  obtain ⟨-, rfl⟩ := h
  have := length_behind_lt hfollow hlength
  rw [List.length_take]
  omega

lemma length_lt_of_readMany (h : readMany bytes data count place = some xs) :
    ∀ bs ∈ xs, bs.length < data.length := by
  induction count generalizing place xs with
  | zero =>
      cases h
      exact fun bs hbs => absurd hbs List.not_mem_nil
  | succ count ih =>
      obtain ⟨x, hx, h⟩ := Option.bind_eq_some_iff.mp h
      obtain ⟨xs', hxs', h⟩ := Option.bind_eq_some_iff.mp h
      cases h
      exact List.forall_mem_cons.mpr ⟨length_lt_of_read_bytes hx, ih hxs'⟩

lemma length_lt_of_read_array (h : (array bytes).read data place = some xs) :
    ∀ bs ∈ xs, bs.length < data.length := by
  obtain ⟨tail, hfollow, h⟩ := Option.bind_eq_some_iff.mp h
  obtain ⟨count, hcount, h⟩ := Option.bind_eq_some_iff.mp h
  rw [Option.ite_none_right_eq_some] at h
  exact fun bs hbs =>
    Nat.lt_trans (length_lt_of_readMany h.2 bs hbs) (length_behind_lt hfollow hcount)

end Abi.Layout

lemma Command.opcode_eq_executeSubPlan {c : Command} :
    c.opcode = .executeSubPlan ↔ ∃ commands inputs, c = .executeSubPlan commands inputs := by
  cases c with
  | swap side path => cases side <;> cases path <;> simp [opcode]
  | _ => simp [opcode]

/-- A command that can stand innermost in a plan: it holds no plan, and its input holds it, which a
permit with times above 48 bits would be too large for. -/
structure Command.Innermost (c : Command) : Prop where
  opcode_ne : c.opcode ≠ .executeSubPlan
  range : ∀ permit, c = .permit2Permit permit →
    permit.expiration.toNat < 2 ^ 48 ∧ permit.nonce.toNat < 2 ^ 48

/-- An input is longer than the inputs of the plan in it. -/
lemma Command.length_lt_of_decode {o : Opcode} {input commands : Bytes} {inputs : List Bytes}
    (h : decode o input = .ok (.executeSubPlan commands inputs)) :
    ∀ i ∈ inputs, i.length < input.length := by
  obtain ⟨rfl, -⟩ := of_decode h
  obtain ⟨⟨commands', inputs'⟩, hread, heq⟩ := Option.map_eq_some_iff.mp (eq_some_of_known h)
  obtain ⟨rfl, rfl⟩ := by simpa using heq
  exact Abi.Layout.length_lt_of_read_array (Abi.Layout.read_pair hread).2

namespace Plan

/-- An entry is longer than those of the plan in it. -/
lemma Entry.length_lt_of_parts {e : Entry} {commands : Bytes} {inputs : List Bytes} {p : Plan}
    (hcommand : e.decode = .ok (.executeSubPlan commands inputs))
    (hparts : ofParts commands inputs = .ok p) :
    ∀ entry ∈ p.entries, entry.input.length < e.input.length := by
  intro entry hentry
  have hinput : entry.input ∈ p.inputs := List.mem_map_of_mem hentry
  rw [(ofParts_eq_ok.mp hparts).2] at hinput
  exact Command.length_lt_of_decode hcommand _ hinput

/-! ### Trees of plans -/

/-- What stands at one place of a plan: a command, or a plan of its own, which may be marked. -/
inductive Item
  | command (c : Command)
  | nested (items : List Item) (allowRevert : Bool)

mutual

/-- Appends an item; what is to be nested is put together first. -/
def Item.pushTo (p : Plan) : Item → Except Error Plan
  | .command c => .ok (p.push c)
  | .nested items allowRevert => do p.pushSubPlan (← pushItems empty items) allowRevert

def pushItems (p : Plan) : List Item → Except Error Plan
  | [] => .ok p
  | item :: items => do pushItems (← item.pushTo p) items

end

/-- The plan of a tree, from its innermost plans out. -/
def ofItems (items : List Item) : Except Error Plan := pushItems empty items

/-- The item that an entry holds, down to the innermost commands. Only a nested plan may be
marked. -/
def Entry.unpack (e : Entry) : Except Error Item :=
  match hcommand : e.decode with
  | .error err => .error err
  | .ok (.executeSubPlan commands inputs) =>
    match hparts : ofParts commands inputs with
    | .error err => .error err
    | .ok p => do
      let items ← p.entries.attach.mapM fun ⟨entry, hentry⟩ =>
        have := length_lt_of_parts hcommand hparts entry hentry
        entry.unpack
      return .nested items e.allowRevert
  | .ok c => if e.allowRevert then .error (.notRevertible c.opcode) else .ok (.command c)
termination_by e.input.length

def unpack (p : Plan) : Except Error (List Item) := p.entries.mapM Entry.unpack

lemma Entry.mapM_attach_unpack (es : List Entry) :
    (es.attach.mapM fun e => e.1.unpack) = es.mapM unpack := by
  change es.attach.mapM (unpack ∘ Subtype.val) = _
  rw [← List.mapM_map, List.attach_map_subtype_val]

section Unpacked

variable {e : Entry} {c : Command} {commands : Bytes} {inputs : List Bytes}

lemma Entry.unpack_of_error {err : Error} (h : e.decode = .error err) :
    e.unpack = .error err := by
  rw [unpack]
  split
  · next herr => exact congrArg Except.error (Except.error.inj (herr.symm.trans h))
  · next hc => cases hc.symm.trans h
  · next hc => cases hc.symm.trans h

lemma Entry.unpack_of_command (h : e.decode = .ok c) (hplain : c.opcode ≠ .executeSubPlan) :
    e.unpack = if e.allowRevert then .error (.notRevertible c.opcode) else .ok (.command c) := by
  rw [unpack]
  split
  · next herr => cases herr.symm.trans h
  · next hc =>
      obtain rfl := Except.ok.inj (hc.symm.trans h)
      exact absurd rfl hplain
  · next hc =>
      obtain rfl := Except.ok.inj (hc.symm.trans h)
      rfl

lemma Entry.unpack_of_subPlan (h : e.decode = .ok (.executeSubPlan commands inputs)) :
    e.unpack = do
      let p ← ofParts commands inputs
      let items ← p.unpack
      return .nested items e.allowRevert := by
  rw [unpack]
  split
  · next herr => cases herr.symm.trans h
  · next hc =>
      obtain ⟨rfl, rfl⟩ := by simpa using hc.symm.trans h
      split
      · next hparts => rw [hparts]; rfl
      · next hparts => rw [mapM_attach_unpack, hparts]; rfl
  · next hplain hc => exact absurd (Except.ok.inj (hc.symm.trans h)) (hplain commands inputs)

/-- **What an entry is unpacked to**: the command that its input spells, without a mark, or the
items of the plan that stands in its input. -/
lemma Entry.unpack_eq_ok {item : Item} : e.unpack = .ok item ↔
    (∃ c, e.decode = .ok c ∧ c.opcode ≠ .executeSubPlan ∧ e.allowRevert = false ∧
        item = .command c) ∨
      ∃ commands inputs p items, e.decode = .ok (.executeSubPlan commands inputs) ∧
        ofParts commands inputs = .ok p ∧ p.unpack = .ok items ∧
        item = .nested items e.allowRevert := by
  cases hdecode : e.decode with
  | error err => simp [unpack_of_error hdecode]
  | ok c =>
      by_cases hplan : c.opcode = .executeSubPlan
      · obtain ⟨commands, inputs, rfl⟩ := Command.opcode_eq_executeSubPlan.mp hplan
        rw [unpack_of_subPlan hdecode]
        simp only [bind_eq_ok, pure_eq_ok]
        simp [hplan, @eq_comm _ item]
      · have hother : ∀ commands inputs, c ≠ .executeSubPlan commands inputs :=
          fun commands inputs h => hplan (Command.opcode_eq_executeSubPlan.mpr ⟨_, _, h⟩)
        rw [unpack_of_command hdecode hplan]
        cases e.allowRevert <;> simp [hplan, hother, @eq_comm _ item]

end Unpacked

/-! ### What a tree is put together to -/

namespace Item

/-- What holds of commands, and of a nested plan if it holds of its items, holds of all items. -/
@[elab_as_elim]
theorem induction {motive : Item → Prop} (command : ∀ c, motive (.command c))
    (nested : ∀ items allowRevert, (∀ item ∈ items, motive item) →
      motive (.nested items allowRevert)) : ∀ item, motive item
  | .command c => command c
  | .nested items allowRevert =>
      nested items allowRevert fun item hitem =>
        have := List.sizeOf_lt_of_mem hitem
        induction command nested item
termination_by item => sizeOf item
decreasing_by
  rw [Item.nested.sizeOf_spec]
  omega

mutual

/-- The entry that an item becomes. -/
def entry : Item → Entry
  | .command c => .ofCommand c false
  | .nested items allowRevert =>
    .ofCommand (.executeSubPlan (Plan.mk (entries items)).commands (Plan.mk (entries items)).inputs)
      allowRevert

def entries : List Item → List Entry
  | [] => []
  | item :: items => item.entry :: entries items

end

lemma entries_eq_map (items : List Item) : entries items = items.map entry := by
  induction items with
  | nil => rfl
  | cons item items ih => rw [entries, ih, List.map_cons]

lemma pushItems_of_pushTo {items : List Item}
    (h : ∀ item ∈ items, ∀ p, item.pushTo p = .ok (p ++ ⟨[item.entry]⟩)) (p : Plan) :
    pushItems p items = .ok (p ++ ⟨entries items⟩) := by
  induction items generalizing p with
  | nil =>
      obtain ⟨es⟩ := p
      exact congrArg (fun es => Except.ok (Plan.mk es)) (List.append_nil es).symm
  | cons item items ih =>
      obtain ⟨hitem, hitems⟩ := List.forall_mem_cons.mp h
      refine bind_eq_ok.mpr ⟨_, hitem p, (ih hitems _).trans ?_⟩
      exact congrArg (fun es => Except.ok (Plan.mk es)) (List.append_assoc p.entries _ _)

/-- Putting an item together is never refused, and gives one entry. -/
lemma pushTo_eq (item : Item) : ∀ p, item.pushTo p = .ok (p ++ ⟨[item.entry]⟩) := by
  induction item using induction with
  | command c => exact fun p => rfl
  | nested items allowRevert ih =>
      intro p
      refine bind_eq_ok.mpr ⟨⟨entries items⟩, pushItems_of_pushTo ih empty, ?_⟩
      exact if_neg (by simp [Opcode.isRevertible, Command.opcode])

end Item

lemma ofItems_eq (items : List Item) : ofItems items = .ok ⟨items.map Item.entry⟩ := by
  rw [← Item.entries_eq_map]
  exact Item.pushItems_of_pushTo (fun item _ => item.pushTo_eq) empty

/-! ### What a tree is unpacked to -/

/-- An item all of whose innermost commands can stand there. -/
inductive Item.Proper : Item → Prop
  | command {c : Command} (h : c.Innermost) : Proper (.command c)
  | nested {items : List Item} {allowRevert : Bool} (h : ∀ item ∈ items, item.Proper) :
      Proper (.nested items allowRevert)

/-- The input of a nested plan is no shorter than those of its entries. -/
lemma length_input_le {p : Plan} {e : Entry} (he : e ∈ p.entries) :
    e.input.length ≤ (Command.executeSubPlan p.commands p.inputs).encode.length :=
  Abi.Layout.length_le_of_mem (List.mem_map_of_mem he) fun _ hpart => List.mem_append_right _ hpart

lemma Item.unpack_entry {item : Item} (h : item.Proper) (hlen : item.entry.input.length < 2 ^ 63) :
    item.entry.unpack = .ok item := by
  induction item using Item.induction with
  | command c =>
      cases h with
      | command hc =>
          have hread := c.decode_encode (Nat.lt_trans hlen (by decide))
          rw [Command.capped_eq_self.mpr hc.range] at hread
          exact Entry.unpack_eq_ok.mpr (.inl ⟨c, hread, hc.opcode_ne, rfl, rfl⟩)
  | nested items allowRevert ih =>
      cases h with
      | nested hitems =>
          let sub : Plan := ⟨entries items⟩
          have hread := (Command.executeSubPlan sub.commands sub.inputs).decode_encode
            (Nat.lt_trans hlen (by decide))
          refine Entry.unpack_eq_ok.mpr
            (.inr ⟨_, _, sub, items, hread, sub.ofParts_parts, ?_, rfl⟩)
          have hentries : sub.entries = items.map entry := entries_eq_map items
          rw [unpack, hentries, mapM_eq_ok, List.forall₂_map_left_iff, List.forall₂_same]
          intro item hitem
          -- The entries of the plan lie in its input, so that the bound on this bounds theirs.
          have hmem : item.entry ∈ sub.entries := hentries ▸ List.mem_map_of_mem hitem
          exact ih item hitem (hitems item hitem) (Nat.lt_of_le_of_lt (length_input_le hmem) hlen)

/-- Whatever an entry is unpacked to, the innermost commands can stand there. -/
lemma Item.proper_of_unpack {item : Item} {e : Entry} (h : e.unpack = .ok item) : item.Proper := by
  induction item using Item.induction generalizing e with
  | command c =>
      rcases Entry.unpack_eq_ok.mp h with ⟨c', hc, hplain, -, heq⟩ | ⟨_, _, _, _, -, -, -, heq⟩
      · obtain rfl := Item.command.inj heq
        obtain ⟨-, hcapped⟩ := Command.of_decode hc
        exact .command ⟨hplain, Command.capped_eq_self.mp hcapped⟩
      · cases heq
  | nested items allowRevert ih =>
      rcases Entry.unpack_eq_ok.mp h with ⟨_, -, -, -, heq⟩ | ⟨_, _, p, items', -, -, hitems, heq⟩
      · cases heq
      · obtain ⟨rfl, -⟩ := Item.nested.inj heq
        refine .nested fun item hitem => ?_
        obtain ⟨entry, -, hentry⟩ := exists_of_mem_mapM hitems hitem
        exact ih item hitem hentry

/-- **A tree of plans is put together, and unpacked to itself again**, with its order, its marks and
its commands, just where its innermost commands can stand there. -/
theorem unpack_ofItems (items : List Item) : ∃ p, ofItems items = .ok p ∧
    ((∀ input ∈ p.inputs, input.length < 2 ^ 63) →
      (p.unpack = .ok items ↔ ∀ item ∈ items, item.Proper)) := by
  refine ⟨_, ofItems_eq items, fun hlen => ?_⟩
  rw [unpack, mapM_eq_ok, List.forall₂_map_left_iff, List.forall₂_same]
  refine forall₂_congr fun item hitem => ⟨Item.proper_of_unpack, fun h => ?_⟩
  exact Item.unpack_entry h (hlen _ (List.mem_map_of_mem (List.mem_map_of_mem hitem)))

namespace Sample

/-- A permit whose times have room in an input. -/
def permit : Permit := { SwapPlan.Sample.permit with expiration := 7 }

/-- A permit and a marked plan are nested, the one beside the other, behind a command. -/
def tree : List Item :=
  [.command (.wrapEth (.ofNat 0x77) 5),
    .nested [.command (.permit2Permit permit),
      .nested [.command (.sweep (.ofNat 0xa1) (.ofNat 0x77) 5), .nested [] false] true] false]

theorem tree_unpacked : ∃ p, ofItems tree = .ok p ∧ p.commands = [0x0b, 0x21] ∧
    p.unpack = .ok tree := by
  obtain ⟨p, hp, hunpack⟩ := unpack_ofItems tree
  obtain rfl := Except.ok.inj (hp.symm.trans (ofItems_eq tree))
  refine ⟨_, hp, rfl, (hunpack (by decide +kernel)).mpr ?_⟩
  have hpermit : (Command.permit2Permit permit).Innermost :=
    ⟨by decide, fun permit h => by cases h; decide⟩
  have hwrap : (Command.wrapEth (.ofNat 0x77) 5).Innermost := ⟨by decide, by simp⟩
  have hsweep : (Command.sweep (.ofNat 0xa1) (.ofNat 0x77) 5).Innermost := ⟨by decide, by simp⟩
  have hinner : Item.Proper (.nested [.command (.sweep (.ofNat 0xa1) (.ofNat 0x77) 5),
      .nested [] false] true) :=
    .nested (List.forall_mem_cons.mpr ⟨.command hsweep, List.forall_mem_singleton.mpr (.nested
      fun item h => absurd h List.not_mem_nil)⟩)
  exact List.forall_mem_cons.mpr ⟨.command hwrap, List.forall_mem_singleton.mpr
    (.nested (List.forall_mem_cons.mpr ⟨.command hpermit, List.forall_mem_singleton.mpr hinner⟩))⟩

end Sample

end Plan

end SwapPlan

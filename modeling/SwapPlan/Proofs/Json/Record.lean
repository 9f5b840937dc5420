import SwapPlan.Json.Record
import SwapPlan.Proofs.Outcome
import Mathlib.Data.List.Nodup

/-!
Records that were written, read back. A record is written as an object of just its own fields, each
of them once, so that every field is found and nothing else is in the way. The other way round, what
a record holds was read from parts of the value that it was read from.
-/

namespace SwapPlan.Json

namespace Record

variable {α β : Type} {name : String} {absence : Absence α} {value : Json → Read α} {j : Json}
  {fields : List (String × Json)} {a r : Record α} {b : Record β} {x : α} {y : β}
  {place : Nat} {parts : Parts}

/-! ### Fields that are there -/

lemma exists_at? (hnodup : (fields.map Prod.fst).Nodup) (hmem : (name, j) ∈ fields) :
    ∃ i, at? name fields = some (j, i) := by
  have hat : at? name fields = (fields.zipIdx.find? fun f => f.1.1 = name).map fun f =>
      (f.1.2, f.2) := rfl
  rw [hat]
  cases hfind : fields.zipIdx.find? fun f => f.1.1 = name with
  | none =>
      obtain ⟨i, hi, hget⟩ := List.getElem_of_mem hmem
      have hmem' : ((name, j), i) ∈ fields.zipIdx := by
        rw [List.mk_mem_zipIdx_iff_getElem?, List.getElem?_eq_getElem hi, hget]
      exact absurd (List.find?_eq_none.mp hfind _ hmem') (by simp)
  | some found =>
      obtain ⟨f, i⟩ := found
      have hname : f.1 = name := by simpa using List.find?_some hfind
      have hf : f ∈ fields := List.fst_mem_of_mem_zipIdx (List.mem_of_find?_eq_some hfind)
      obtain rfl : f = (name, j) := List.inj_on_of_nodup_map hnodup hf hmem hname
      exact ⟨i, rfl⟩

/-- The fields hold the record, which is read from their names and not from their places. -/
def Holds (r : Record α) (fields : List (String × Json)) (x : α) : Prop :=
  ∀ place, r.read place (.named fields) = .ok x

lemma holds_field (hnodup : (fields.map Prod.fst).Nodup) (hmem : (name, j) ∈ fields)
    (hvalue : value j = .ok x) : (field name absence value).Holds fields x := by
  intro place
  obtain ⟨i, hi⟩ := exists_at? hnodup hmem
  simp only [field, hi, hvalue]

lemma Holds.pair (ha : a.Holds fields x) (hb : b.Holds fields y) :
    (a * b).Holds fields (x, y) := by
  intro place
  change (Record.pair a b).read place _ = _
  simp only [Record.pair, ha place, hb _]

lemma Holds.map {f : α → β} (h : r.Holds fields x) : (r.map f).Holds fields (f x) := by
  intro place
  simp only [Record.map, h place, Except.map]

lemma intruder?_go {names seen : List String} {i : Nat} (hnodup : (fields.map Prod.fst).Nodup)
    (hnames : ∀ f ∈ fields, f.1 ∈ names) (hseen : ∀ f ∈ fields, f.1 ∉ seen) :
    intruder?.go names seen i fields = none := by
  induction fields generalizing seen i with
  | nil => rfl
  | cons f fields ih =>
      rw [List.map_cons, List.nodup_cons] at hnodup
      obtain ⟨hname, hnames⟩ := List.forall_mem_cons.mp hnames
      obtain ⟨hfresh, hseen⟩ := List.forall_mem_cons.mp hseen
      rw [intruder?.go, if_pos hname, if_neg hfresh]
      refine ih hnodup.2 hnames fun g hg => ?_
      rw [List.mem_cons, not_or]
      exact ⟨fun h => hnodup.1 (h ▸ List.mem_map_of_mem hg), hseen g hg⟩

/-- A record is read from its own fields. -/
lemma ofParts_written (hnames : fields.map Prod.fst = r.names) (hnodup : r.names.Nodup)
    (h : r.Holds fields x) : r.ofParts (.named fields) = .ok x := by
  have hintruder : intruder? r.names (.named fields) = none :=
    intruder?_go (hnames ▸ hnodup) (fun f hf => hnames ▸ List.mem_map_of_mem hf)
      fun _ _ => List.not_mem_nil
  rw [ofParts, h 0, hintruder]

/-! ### Where a record comes from -/

lemma read_of_ofParts (h : r.ofParts parts = .ok x) : r.read 0 parts = .ok x := by
  unfold ofParts at h
  split at h <;> simp_all

lemma read_pair {z : α × β} (h : (a * b).read place parts = .ok z) :
    a.read place parts = .ok z.1 ∧ b.read (place + a.names.length) parts = .ok z.2 := by
  change (Record.pair a b).read place parts = .ok z at h
  simp only [Record.pair] at h
  split at h
  · rename_i ha hb
    obtain rfl := Except.ok.inj h
    exact ⟨ha, hb⟩
  all_goals cases h

lemma read_map {f : α → β} (h : (r.map f).read place parts = .ok y) :
    ∃ x, r.read place parts = .ok x ∧ f x = y := by
  simp only [Record.map] at h
  cases hx : r.read place parts with
  | error e =>
      rw [hx] at h
      cases h
  | ok x =>
      rw [hx] at h
      exact ⟨x, rfl, Except.ok.inj h⟩

/-- What has to be there was read from a value. -/
lemma exists_of_read_field (h : (field name .required value).read place parts = .ok x) :
    ∃ j, value j = .ok x := by
  cases parts with
  | named fields =>
      simp only [field] at h
      cases hat : at? name fields with
      | none =>
          rw [hat] at h
          cases h
      | some found =>
          simp only [hat] at h
          split at h
          · rename_i hvalue
            exact ⟨found.1, hvalue.trans (congrArg _ (Except.ok.inj h))⟩
          · cases h
  | listed items =>
      simp only [field] at h
      cases hitem : items[place]? with
      | none =>
          rw [hitem] at h
          cases h
      | some item =>
          simp only [hitem] at h
          split at h
          · rename_i hvalue
            exact ⟨item, hvalue.trans (congrArg _ (Except.ok.inj h))⟩
          · cases h

end Record

/-! ### Tags and lists -/

lemma tagged_written {form : TagForm} {names : List String} {tag name : String}
    {fields : List (String × Json)} (h : tag ∉ fields.map Prod.fst) :
    tagged form names tag (.obj ((tag, .str name) :: fields)) = .ok (name, .named fields) := by
  have hother : ∀ f ∈ fields, f.1 ≠ tag := fun f hf hname => h (hname ▸ List.mem_map_of_mem hf)
  have hnone : fields.filter (fun f => f.1 = tag) = [] :=
    List.filter_eq_nil_iff.mpr fun f hf => by simpa using hother f hf
  have hall : fields.filter (fun f => f.1 ≠ tag) = fields :=
    List.filter_eq_self.mpr fun f hf => by simpa using hother f hf
  simp only [tagged]
  rw [List.filter_cons_of_pos (by simp), List.filter_cons_of_neg (by simp), hnone, hall]
  rfl

lemma listOf_written {α : Type} {value : Json → Read α} {toJson : α → Json} {xs : List α}
    (h : ∀ x ∈ xs, value (toJson x) = .ok x) : listOf value (.arr (xs.map toJson)) = .ok xs := by
  rw [listOf, mapM_eq_ok, List.forall₂_map_left_iff, List.forall₂_same]
  exact h

lemma exists_of_listOf {α : Type} {value : Json → Read α} {j : Json} {xs : List α} {x : α}
    (h : listOf value j = .ok xs) (hx : x ∈ xs) : ∃ j, value j = .ok x := by
  unfold listOf at h
  split at h
  · obtain ⟨item, -, hitem⟩ := exists_of_mem_mapM h hx
    exact ⟨item, hitem⟩
  · cases h

end SwapPlan.Json

import SwapPlan.Calldata
import SwapPlan.Proofs.Hex
import Mathlib.Data.List.TakeWhile

/-!
Calldata as text. Once the blanks at its ends and then at most one mark are dropped, a text is
read just where digit pairs are left, and as the bytes that they spell. These are the texts that
come of writing bytes in some form, and each of them is read as what was written.
-/

namespace SwapPlan

/-! ### Blanks at the ends -/

namespace Text

variable {cs ds before after : List Char}

/-- The text `ds` is `cs` without the blanks at its ends. -/
structure Trimmed (cs ds : List Char) : Prop where
  around : ∃ before after, (∀ c ∈ before, isBlank c) ∧ (∀ c ∈ after, isBlank c) ∧
    before ++ ds ++ after = cs
  head : ∀ c ∈ ds.head?, ¬ isBlank c
  last : ∀ c ∈ ds.getLast?, ¬ isBlank c

/-- What is left behind the leading characters of a kind. -/
lemma dropWhile_eq_iff {p : Char → Bool} : cs.dropWhile p = ds ↔
    (∃ before, (∀ c ∈ before, p c) ∧ before ++ ds = cs) ∧ ∀ c ∈ ds.head?, ¬ p c := by
  constructor
  · rintro rfl
    refine ⟨⟨cs.takeWhile p, fun c hc => List.mem_takeWhile_imp hc,
      List.takeWhile_append_dropWhile⟩, fun c hc => ?_⟩
    have hstop := List.head?_dropWhile_not p cs
    rw [hc] at hstop
    simpa using hstop
  · rintro ⟨⟨before, hbefore, rfl⟩, hhead⟩
    rw [List.dropWhile_append_of_pos hbefore]
    cases ds with
    | nil => rfl
    | cons d ds => exact List.dropWhile_cons_of_neg (hhead d rfl)

lemma trimChars_eq_iff : trimChars cs = ds ↔ Trimmed cs ds := by
  rw [trimChars, List.reverse_eq_iff, dropWhile_eq_iff, List.head?_reverse]
  constructor
  · rintro ⟨⟨after, hafter, heq⟩, hlast⟩
    have hfront : cs.dropWhile isBlank = ds ++ after.reverse := by
      rw [List.reverse_eq_iff.mp heq.symm, List.reverse_append, List.reverse_reverse]
    obtain ⟨⟨before, hbefore, rfl⟩, hhead⟩ := dropWhile_eq_iff.mp hfront
    refine ⟨⟨before, after.reverse, hbefore, fun c hc => hafter c (List.mem_reverse.mp hc),
      List.append_assoc _ _ _⟩, fun c hc => hhead c ?_, hlast⟩
    rw [List.head?_append, hc]
    rfl
  · rintro ⟨⟨before, after, hbefore, hafter, rfl⟩, hhead, hlast⟩
    refine ⟨?_, hlast⟩
    rw [List.append_assoc, List.dropWhile_append_of_pos hbefore]
    cases ds with
    | nil =>
        -- where nothing is left, the blanks at the end are dropped with those at the start
        have hall : after.dropWhile isBlank = [] := List.dropWhile_eq_nil_iff.mpr hafter
        exact ⟨[], List.forall_mem_nil _, congrArg List.reverse hall.symm⟩
    | cons d ds =>
        refine ⟨after.reverse, fun c hc => hafter c (List.mem_reverse.mp hc), ?_⟩
        rw [List.cons_append, List.dropWhile_cons_of_neg (hhead d rfl), ← List.cons_append,
          List.reverse_append]

/-- A text without blanks is what is left of it between blanks. -/
lemma Trimmed.of_forall (hbefore : ∀ c ∈ before, isBlank c) (hafter : ∀ c ∈ after, isBlank c)
    (h : ∀ c ∈ cs, ¬ isBlank c) : Trimmed (before ++ cs ++ after) cs where
  around := ⟨before, after, hbefore, hafter, rfl⟩
  head c hc := h c (List.mem_of_mem_head? hc)
  last c hc := h c (List.mem_of_mem_getLast? hc)

end Text

/-! ### Marks -/

namespace Hex

variable {c : Char} {cs ds mark : List Char} {bs : Bytes}

def marks : List (List Char) := [['0', 'x'], ['0', 'X']]

/-- The text `ds` is `cs` without the mark before it, if there is one. -/
inductive Unmarked : List Char → List Char → Prop
  | marked {mark ds : List Char} (h : mark ∈ marks) : Unmarked (mark ++ ds) ds
  | bare {ds : List Char} (h : ∀ mark ∈ marks, ¬ mark <+: ds) : Unmarked ds ds

lemma stripMarkChars_append (h : mark ∈ marks) : stripMarkChars (mark ++ ds) = ds := by
  simp only [marks, List.mem_cons, List.not_mem_nil, or_false] at h
  rcases h with rfl | rfl <;> rfl

lemma stripMarkChars_of_bare (h : ∀ mark ∈ marks, ¬ mark <+: ds) : stripMarkChars ds = ds := by
  unfold stripMarkChars
  split
  · exact absurd (List.prefix_append _ _) (h ['0', 'x'] (by decide))
  · exact absurd (List.prefix_append _ _) (h ['0', 'X'] (by decide))
  · rfl

lemma stripMarkChars_eq_iff : stripMarkChars cs = ds ↔ Unmarked cs ds := by
  constructor
  · rintro rfl
    by_cases h : ∃ mark ∈ marks, mark <+: cs
    · obtain ⟨mark, hmark, ds, rfl⟩ := h
      rw [stripMarkChars_append hmark]
      exact .marked hmark
    · simp only [not_exists, not_and] at h
      rw [stripMarkChars_of_bare h]
      exact .bare h
  · intro h
    cases h with
    | marked hmark => exact stripMarkChars_append hmark
    | bare h => exact stripMarkChars_of_bare h

lemma marks_no_digits : ∀ mark ∈ marks, ∃ c ∈ mark, value? c = none := by
  simp only [marks, List.forall_mem_cons]
  exact ⟨⟨'x', by decide, by decide⟩, ⟨'X', by decide, by decide⟩, List.forall_mem_nil _⟩

/-- Digits begin with no mark. -/
lemma Spells.bare (h : Spells cs bs) : ∀ mark ∈ marks, ¬ mark <+: cs := by
  rintro mark hmark ⟨ds, rfl⟩
  obtain ⟨c, hc, hnone⟩ := marks_no_digits mark hmark
  obtain ⟨n, hdigit⟩ := h.isDigit c (List.mem_append_left ds hc)
  rw [← value?_eq_some, hnone] at hdigit
  cases hdigit

lemma not_blank_of_mark (hmark : mark ∈ marks) (hc : c ∈ mark) : ¬ Text.isBlank c := by
  -- as a check of the listed characters, not of every character there is
  have hall : marks.all fun mark => mark.all fun c => !Text.isBlank c := by decide
  simpa using List.all_eq_true.mp (List.all_eq_true.mp hall mark hmark) c hc

lemma IsDigit.not_blank (h : IsDigit c) : ¬ Text.isBlank c := by
  obtain ⟨n, upper, h⟩ := h
  have hall : ∀ upper, (alphabet upper).all fun c => !Text.isBlank c := by decide
  simpa using List.all_eq_true.mp (hall upper) c (List.mem_of_getElem? h)

end Hex

/-! ### Texts of calldata -/

namespace Calldata

variable {s : String} {body : List Char} {bs : Bytes}

/-- The text `body` is left of `s` when the blanks at the ends and then at most one mark are
dropped. -/
def Leaves (s : String) (body : List Char) : Prop :=
  ∃ cs, Text.Trimmed s.toList cs ∧ Hex.Unmarked cs body

lemma leaves_iff : Leaves s body ↔ body = Hex.stripMarkChars (Text.trimChars s.toList) := by
  constructor
  · rintro ⟨cs, htrimmed, hunmarked⟩
    rw [Text.trimChars_eq_iff.mpr htrimmed, Hex.stripMarkChars_eq_iff.mpr hunmarked]
  · rintro rfl
    exact ⟨_, Text.trimChars_eq_iff.mp rfl, Hex.stripMarkChars_eq_iff.mp rfl⟩

lemma ofText_eq_ok : ofText s = .ok bs ↔ ∃ body, Leaves s body ∧ Hex.Spells body bs := by
  simp only [leaves_iff, exists_eq_left, ← Hex.decodeDigits_eq_some]
  unfold ofText Hex.decodeTrimmed
  cases Hex.decodeDigits (Hex.stripMarkChars (Text.trimChars s.toList)) <;> simp

lemma ofText_eq_error : ofText s = .error .notHex ↔ ¬ ∃ bs, ofText s = .ok bs := by
  unfold ofText
  cases Hex.decodeTrimmed s <;> simp

/-! ### What is read -/

/-- How the text `s` is read where `body` is left of it. -/
structure Reads (s : String) (body : List Char) : Prop where
  accepts : (∃ bs, ofText s = .ok bs) ↔ Even body.length ∧ ∀ c ∈ body, Hex.IsDigit c
  refuses : ofText s = .error .notHex ↔ ¬ (Even body.length ∧ ∀ c ∈ body, Hex.IsDigit c)
  spells : ∀ bs, ofText s = .ok bs ↔ Hex.Spells body bs

lemma Leaves.reads (h : Leaves s body) : Reads s body := by
  have hspells : ∀ bs, ofText s = .ok bs ↔ Hex.Spells body bs := by
    intro bs
    rw [ofText_eq_ok]
    simp only [leaves_iff.mp h, leaves_iff, exists_eq_left]
  have haccepts : (∃ bs, ofText s = .ok bs) ↔ Even body.length ∧ ∀ c ∈ body, Hex.IsDigit c := by
    rw [← Hex.exists_spells]
    exact exists_congr hspells
  exact ⟨haccepts, ofText_eq_error.trans (not_congr haccepts), hspells⟩

/-! ### What is written -/

/-- A way of writing bytes: the blanks around them, the mark before them, if any, and the places
of the digits in upper case. -/
structure Form where
  before : List Char
  mark : List Char
  upper : Nat → Bool
  after : List Char
  blank_before : ∀ c ∈ before, Text.isBlank c
  mark_mem : mark ∈ [] :: Hex.marks
  blank_after : ∀ c ∈ after, Text.isBlank c

namespace Form

def write (f : Form) (bs : Bytes) : String :=
  String.ofList (f.before ++ (f.mark ++ Hex.cased f.upper (Hex.digits bs)) ++ f.after)

variable (f : Form)

lemma not_blank (bs : Bytes) :
    ∀ c ∈ f.mark ++ Hex.cased f.upper (Hex.digits bs), ¬ Text.isBlank c := by
  intro c hc
  rcases List.mem_append.mp hc with hmark | hdigit
  · rcases List.mem_cons.mp f.mark_mem with hnone | hmem
    · rw [hnone] at hmark
      cases hmark
    · exact Hex.not_blank_of_mark hmem hmark
  · exact ((Hex.spells_cased f.upper bs).isDigit c hdigit).not_blank

lemma unmarked (bs : Bytes) : Hex.Unmarked (f.mark ++ Hex.cased f.upper (Hex.digits bs))
    (Hex.cased f.upper (Hex.digits bs)) := by
  rcases List.mem_cons.mp f.mark_mem with hnone | hmem
  · rw [hnone]
    exact .bare (Hex.spells_cased f.upper bs).bare
  · exact .marked hmem

/-- Bytes are read as they were written, in whatever form. -/
lemma ofText_write (bs : Bytes) : ofText (f.write bs) = .ok bs := by
  refine ofText_eq_ok.mpr ⟨_, ⟨_, ?_, f.unmarked bs⟩, Hex.spells_cased f.upper bs⟩
  rw [write, String.toList_ofList]
  exact .of_forall f.blank_before f.blank_after (f.not_blank bs)

end Form

/-- Each text that is read was written in some form. -/
lemma exists_form (h : ofText s = .ok bs) : ∃ f : Form, f.write bs = s := by
  obtain ⟨body, ⟨cs, htrimmed, hunmarked⟩, hspells⟩ := ofText_eq_ok.mp h
  obtain ⟨before, after, hbefore, hafter, hs⟩ := htrimmed.around
  obtain ⟨upper, rfl⟩ := hspells.exists_cased
  have hwrite {mark : List Char} (hmem : mark ∈ [] :: Hex.marks)
      (hcs : mark ++ Hex.cased upper (Hex.digits bs) = cs) : ∃ f : Form, f.write bs = s := by
    refine ⟨⟨before, mark, upper, after, hbefore, hmem, hafter⟩, ?_⟩
    rw [Form.write, hcs, hs, String.ofList_toList]
  cases hunmarked with
  | marked hmark => exact hwrite (List.mem_cons_of_mem _ hmark) rfl
  | bare _ => exact hwrite List.mem_cons_self rfl

/-- **The text of calldata is read exactly where it spells bytes.** Each text leaves one body behind
its blanks and its mark, which alone decides what is read; and the texts that are read as `bs` are
those that `bs` is written as. -/
theorem ofText_exact :
    (∀ s, ∃ body, (∀ cs, Leaves s cs ↔ cs = body) ∧ Reads s body) ∧
      ∀ s bs, ofText s = .ok bs ↔ ∃ f : Form, f.write bs = s := by
  refine ⟨fun s => ?_, fun s bs => ⟨exists_form, ?_⟩⟩
  · exact ⟨_, fun _ => leaves_iff, (leaves_iff.mpr rfl).reads⟩
  · rintro ⟨f, rfl⟩
    exact f.ofText_write bs

example : ofText "\t0xAb\r\n" = .ok [0xab] := by cbv

/-- A second mark is left standing, and is no digit pair. -/
example : ofText "0x0x" = .error .notHex := by cbv

end Calldata

end SwapPlan

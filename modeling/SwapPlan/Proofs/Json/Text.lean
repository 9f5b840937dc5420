import SwapPlan.Json.Print
import SwapPlan.Json.Text
import Mathlib.Tactic.IntervalCases
import Mathlib.Tactic.Lemma

/-!
JSON texts on one line, read back. A value is read up to the character behind it, whatever follows,
so that a text of parts is read part by part; and the fuel of the reader, twice the number of
characters, is spent no faster than they are.
-/

namespace SwapPlan.Json

variable {n m : Nat} {c : Char} {cs cs' rest : List Char} {units : List Nat}

/-! ### Strings -/

lemma numberIn?_digits : ∀ x < 32,
    Text.numberIn? 16 ('0' :: '0' :: Hex.digits [UInt8.ofNat x]) = some x := by decide

/-- A character is read from its own escape, and what stands behind it by itself. -/
lemma stringUnits_quoteChar (h : stringUnits cs = some (units, rest)) :
    stringUnits (quoteChar c ++ cs) = some (c.toNat :: units, rest) := by
  have hescape {e : Char} (he : escape? e = some c) (hu : e ≠ 'u') :
      stringUnits ('\\' :: e :: cs) = some (c.toNat :: units, rest) := by
    rw [stringUnits]
    · simp only [he, h]
      rfl
    · exact fun a b c d rest he => absurd he hu
  unfold quoteChar
  split_ifs with hquote hslash hn hr ht hb hf hcontrol
  · exact hescape (by rw [hquote]; rfl) (by decide)
  · exact hescape (by rw [hslash]; rfl) (by decide)
  · exact hescape (hn ▸ rfl) (by decide)
  · exact hescape (hr ▸ rfl) (by decide)
  · exact hescape (ht ▸ rfl) (by decide)
  · exact hescape (hb ▸ rfl) (by decide)
  · exact hescape (hf ▸ rfl) (by decide)
  · have hdigits := numberIn?_digits c.toNat hcontrol
    simp only [Hex.digits, List.flatMap_cons, List.flatMap_nil, List.append_nil] at hdigits ⊢
    simp only [List.cons_append, List.nil_append, stringUnits, hdigits, h]
    rfl
  · simp only [List.singleton_append]
    rw [stringUnits]
    · simp only [h]
      rw [if_neg (by simp [hslash, hcontrol])]
      rfl
    · exact hquote
    · exact fun _ _ _ _ _ hc => absurd hc hslash
    · exact fun _ _ hc => absurd hc hslash

lemma stringUnits_quoted (cs rest : List Char) :
    stringUnits (cs.flatMap quoteChar ++ '"' :: rest) = some (cs.map Char.toNat, rest) := by
  induction cs with
  | nil => rfl
  | cons c cs ih =>
      rw [List.flatMap_cons, List.append_assoc]
      exact stringUnits_quoteChar ih

/-- No character is half of a surrogate pair. -/
lemma not_surrogate (c : Char) : ¬ (0xd800 ≤ c.toNat ∧ c.toNat < 0xe000) := by
  have hvalid := c.valid
  simp only [UInt32.isValidChar, Nat.isValidChar] at hvalid
  simp only [Char.toNat]
  omega

lemma joinUnits_toNat (cs : List Char) : joinUnits (cs.map Char.toNat) = some cs := by
  induction cs with
  | nil => rfl
  | cons c cs ih =>
      have hc := not_surrogate c
      cases cs with
      | nil => rw [List.map_cons, List.map_nil, joinUnits, if_neg hc, Char.ofNat_toNat]
      | cons d cs =>
          rw [List.map_cons] at ih
          rw [List.map_cons, List.map_cons, joinUnits, if_neg (by omega), if_neg hc, ih,
            Char.ofNat_toNat]
          rfl

/-- The characters of a string behind its opening quote. -/
lemma readString_quoted (s : String) (rest : List Char) :
    readString (s.toList.flatMap quoteChar ++ '"' :: rest) = (str s, some rest) := by
  rw [readString, stringUnits_quoted]
  simp only [joinUnits_toNat, String.ofList_toList]

lemma toList_quote (s : String) : (quote s).toList = '"' :: s.toList.flatMap quoteChar ++ ['"'] :=
  String.toList_ofList

/-! ### Numbers -/

open Nat (digitChar toDigits)

/-- What may stand behind a value: the text is over, or a part of an array or object ends. -/
def Ends (rest : List Char) : Prop := ∀ c ∈ rest.head?, c = ',' ∨ c = ']' ∨ c = '\x7d'

lemma ends_cons (h : c = ',' ∨ c = ']' ∨ c = '\x7d') : Ends (c :: rest) :=
  fun _ hc => Option.some.inj hc ▸ h

lemma exists_toDigits (m : Nat) : ∃ d < 10, ∃ ds, toDigits 10 m = digitChar d :: ds ∧
    (d = 0 → m = 0) := by
  induction m using Nat.strongRecOn with
  | ind m ih =>
    rw [Nat.toDigits_eq_if (by decide)]
    split
    · rename_i h
      exact ⟨m, h, [], rfl, id⟩
    · rename_i h
      obtain ⟨d, hd, ds, hds, hzero⟩ := ih (m / 10) (by omega)
      rw [hds]
      exact ⟨d, hd, _, rfl, fun h0 => by have := hzero h0; omega⟩

lemma natOfDigits_toDigits (m : Nat) : Text.natOfDigits (toDigits 10 m) = m :=
  Nat.ofDigitChars_toDigits (by decide) (by decide)

/-- The digits of a number are read up to its end. -/
lemma digits?_toDigits (h : Ends rest) :
    digits? (toDigits 10 m ++ rest) = some (toDigits 10 m, rest) := by
  have hdigits : ∀ c ∈ toDigits 10 m, c.isDigit = true :=
    fun c hc => Nat.isDigit_of_mem_toDigits (by decide) (by decide) hc
  have hend : rest.takeWhile Char.isDigit = [] ∧ rest.dropWhile Char.isDigit = rest := by
    cases rest with
    | nil => exact ⟨rfl, rfl⟩
    | cons c rest =>
        obtain rfl | rfl | rfl := h c rfl <;> exact ⟨rfl, rfl⟩
  have htake : (toDigits 10 m ++ rest).takeWhile Char.isDigit = toDigits 10 m := by
    rw [List.takeWhile_append_of_pos hdigits, hend.1, List.append_nil]
  have hdrop : (toDigits 10 m ++ rest).dropWhile Char.isDigit = rest := by
    rw [List.dropWhile_append_of_pos hdigits, hend.2]
  rw [digits?, htake, hdrop, if_neg Nat.toDigits_ne_nil]

lemma readPlaces_ends (h : Ends rest) : readPlaces rest = some (none, rest) := by
  cases rest with
  | nil => rfl
  | cons c rest => obtain rfl | rfl | rfl := h c rfl <;> rfl

lemma readExponent_ends (h : Ends rest) : readExponent rest = some (none, rest) := by
  cases rest with
  | nil => rfl
  | cons c rest => obtain rfl | rfl | rfl := h c rfl <;> rfl

lemma eq_zero_of_digitChar : ∀ d < 10, digitChar d = '0' → d = 0 := by decide

/-- No zero stands in front of other digits. -/
lemma toDigits_not_padded (m : Nat) :
    ¬ ((toDigits 10 m).head? = some '0' ∧ (toDigits 10 m).length > 1) := by
  rintro ⟨hhead, hlen⟩
  obtain ⟨d, hd, ds, hds, hzero⟩ := exists_toDigits m
  rw [hds, List.head?_cons, Option.some.injEq] at hhead
  rw [hzero (eq_zero_of_digitChar d hd hhead)] at hlen
  exact absurd hlen (by decide)

lemma number?_toDigits (negative : Bool) (h : Ends rest) :
    number? negative (toDigits 10 m ++ rest) =
      some (ofParts negative (toDigits 10 m) none none, rest) := by
  simp only [number?, digits?_toDigits h, Option.bind_eq_bind, Option.bind_some,
    if_neg (toDigits_not_padded m), readPlaces_ends h, readExponent_ends h]
  rfl

/-- Whole numbers that 64 bits hold, with a sign or without. -/
def Fits (i : Int) : Prop := Int64.minValue.toInt ≤ i ∧ i < UInt64.size

lemma fits_of_lt (h : m < UInt64.size) : Fits m := by
  constructor
  · exact Int.le_trans (by decide) (Int.natCast_nonneg m)
  · exact Int.ofNat_lt.mpr h

lemma readNumber_natural (h : Fits m) (hrest : Ends rest) :
    readNumber false (toDigits 10 m ++ rest) = (int m, some rest) := by
  have hvalue : ofParts false (toDigits 10 m) none none = int m := by
    simp only [ofParts, natOfDigits_toDigits]
    exact if_pos ⟨rfl, rfl, h.2⟩
  rw [readNumber, number?_toDigits false hrest, hvalue]

lemma readNumber_negative (h : Fits (Int.negSucc m)) (hrest : Ends rest) :
    readNumber true (toDigits 10 (m + 1) ++ rest) = (int (Int.negSucc m), some rest) := by
  have hvalue : ofParts true (toDigits 10 (m + 1)) none none = int (Int.negSucc m) := by
    simp only [ofParts, natOfDigits_toDigits]
    exact if_pos ⟨rfl, rfl, h.1, Int.negSucc_lt_zero m⟩
  rw [readNumber, number?_toDigits true hrest, hvalue]

/-! ### Values -/

/-- Values whose texts spell them. Doubles and what stands for a fault are left out. -/
inductive Plain : Json → Prop
  | null : Plain null
  | bool (b : Bool) : Plain (bool b)
  | int {i : Int} (h : Fits i) : Plain (int i)
  | str (s : String) : Plain (str s)
  | arr {items : List Json} (h : ∀ j ∈ items, Plain j) : Plain (arr items)
  | obj {fields : List (String × Json)} (h : ∀ f ∈ fields, Plain f.2) : Plain (obj fields)

lemma Plain.of_lt (h : m < UInt64.size) : Plain (.int m) := .int (fits_of_lt h)

def chars (j : Json) : List Char := j.compress.toList

/-- Parts with commas between them. -/
def between (parts : List (List Char)) : List Char := [','].intercalate parts

def fieldChars (f : String × Json) : List Char :=
  '"' :: f.1.toList.flatMap quoteChar ++ '"' :: ':' :: f.2.chars

lemma compressItems_eq (items : List Json) : compressItems items = items.map compress := by
  induction items with
  | nil => rfl
  | cons j items ih => rw [compressItems, ih, List.map_cons]

lemma compressFields_eq (fields : List (String × Json)) :
    compressFields fields = fields.map fun f => quote f.1 ++ ":" ++ f.2.compress := by
  induction fields with
  | nil => rfl
  | cons f fields ih => rw [compressFields, ih, List.map_cons]

lemma chars_arr (items : List Json) :
    (arr items).chars = '[' :: between (items.map chars) ++ [']'] := by
  simp only [chars, compress, compressItems_eq, between, String.toList_append,
    String.toList_intercalate, List.map_map]
  rfl

lemma chars_field (f : String × Json) :
    (quote f.1 ++ ":" ++ f.2.compress).toList = fieldChars f := by
  simp only [String.toList_append, toList_quote, fieldChars, chars, List.append_assoc]
  rfl

lemma chars_obj (fields : List (String × Json)) :
    (obj fields).chars = '\x7b' :: between (fields.map fieldChars) ++ ['\x7d'] := by
  have hfields : fields.map fieldChars =
      (fields.map fun f => quote f.1 ++ ":" ++ f.2.compress).map String.toList := by
    rw [List.map_map]
    exact List.map_congr_left fun f _ => (chars_field f).symm
  simp only [chars, compress, compressFields_eq, between, hfields, String.toList_append,
    String.toList_intercalate]
  rfl

lemma between_cons {part : List Char} {parts : List (List Char)} (hne : parts ≠ []) :
    between (part :: parts) = part ++ ',' :: between parts := by
  obtain ⟨next, parts, rfl⟩ := List.exists_cons_of_ne_nil hne
  rw [between, List.intercalate_cons_cons, List.append_assoc]
  rfl

/-- A value is read from its text, whatever follows. -/
def Spelled (j : Json) : Prop := ∀ n rest, Ends rest → 2 * j.chars.length ≤ n →
  readValue n (j.chars ++ rest) = (j, some rest)

/-! #### Arrays -/

lemma readItems_last {j : Json} (h : readValue n cs = (j, some (']' :: rest))) :
    readItems (n + 1) cs = ([j], some rest) := by
  rw [readItems, h]
  rfl

lemma readItems_next {j : Json} (h : readValue n cs = (j, some (',' :: rest))) :
    readItems (n + 1) cs = (j :: (readItems n rest).1, (readItems n rest).2) := by
  rw [readItems, h]
  rfl

lemma readItems_between {items : List Json} (hne : items ≠ []) (h : ∀ j ∈ items, Spelled j)
    (hn : 2 * (between (items.map chars)).length < n) :
    readItems n (between (items.map chars) ++ ']' :: rest) = (items, some rest) := by
  induction items generalizing n with
  | nil => exact absurd rfl hne
  | cons j items ih =>
      obtain ⟨n, rfl⟩ := Nat.exists_eq_add_one.mpr (Nat.zero_lt_of_lt hn)
      obtain ⟨hj, hitems⟩ := List.forall_mem_cons.mp h
      rw [List.map_cons] at hn ⊢
      by_cases hlast : items = []
      · subst hlast
        rw [List.map_nil, between, List.intercalate_singleton] at hn ⊢
        exact readItems_last (hj n _ (ends_cons (by simp)) (by omega))
      · have hparts : items.map chars ≠ [] := List.map_eq_nil_iff.not.mpr hlast
        -- the comma pays for the step to the next item
        rw [between_cons hparts, List.length_append, List.length_cons] at hn
        rw [between_cons hparts, List.append_assoc, List.cons_append,
          readItems_next (hj n _ (ends_cons (by simp)) (by omega)), ih hlast hitems (by omega)]

lemma readValue_arr (hspace : isSpace c = false) (hclose : c ≠ ']') :
    readValue (n + 1) ('[' :: c :: cs) =
      (arr (readItems n (c :: cs)).1, (readItems n (c :: cs)).2) := by
  have hbracket : ('[' :: c :: cs).dropWhile isSpace = '[' :: c :: cs := rfl
  have hnext : (c :: cs).dropWhile isSpace = c :: cs :=
    List.dropWhile_cons_of_neg (by simp [hspace])
  simp only [readValue, hbracket, hnext]
  split
  · rename_i h
    exact absurd (List.cons.inj h).1 hclose
  · rfl

/-- The text starts neither with a space nor with what closes an empty array. -/
def Starts (j : Json) : Prop := ∃ c cs, j.chars = c :: cs ∧ isSpace c = false ∧ c ≠ ']'

lemma exists_between {part : List Char} (parts : List (List Char)) (h : part = c :: cs) :
    ∃ ds, between (part :: parts) = c :: ds := by
  subst h
  cases parts with
  | nil => exact ⟨cs, List.intercalate_singleton⟩
  | cons next parts => exact ⟨_, List.intercalate_cons_cons⟩

lemma spelled_arr {items : List Json} (h : ∀ j ∈ items, Spelled j ∧ Starts j) :
    Spelled (arr items) := by
  intro n rest hrest hn
  rw [chars_arr, List.length_append, List.length_cons] at hn
  obtain ⟨n, rfl⟩ := Nat.exists_eq_add_one.mpr (show 0 < n by omega)
  rw [chars_arr, List.append_assoc]
  cases items with
  | nil => rfl
  | cons j items =>
      obtain ⟨c, cs, hj, hspace, hclose⟩ := (h j List.mem_cons_self).2
      have hread : readItems n (between ((j :: items).map chars) ++ ']' :: rest) =
          (j :: items, some rest) :=
        readItems_between (List.cons_ne_nil j items) (fun j hj => (h j hj).1) (by omega)
      rw [List.map_cons] at hread ⊢
      obtain ⟨ds, hds⟩ := exists_between (items.map chars) hj
      simp only [hds, List.cons_append, List.nil_append] at hread ⊢
      rw [readValue_arr hspace hclose, hread]

/-! #### Objects -/

/-- The name of a field is read up to its colon. -/
lemma readName_quoted (s : String) (cs : List Char) :
    readName ('"' :: s.toList.flatMap quoteChar ++ '"' :: ':' :: cs) = some (s, cs) := by
  have hquote (ds : List Char) : ('"' :: ds).dropWhile isSpace = '"' :: ds := rfl
  have hcolon : (':' :: cs).dropWhile isSpace = ':' :: cs := rfl
  simp only [readName, List.cons_append, hquote, readString_quoted, hcolon]

lemma readFields_last {f : String × Json} (hname : readName cs = some (f.1, cs'))
    (h : readValue n cs' = (f.2, some ('\x7d' :: rest))) :
    readFields (n + 1) cs = ([f], some rest) := by
  rw [readFields, hname]
  simp only [h]
  rfl

lemma readFields_next {f : String × Json} (hname : readName cs = some (f.1, cs'))
    (h : readValue n cs' = (f.2, some (',' :: rest))) :
    readFields (n + 1) cs = (f :: (readFields n rest).1, (readFields n rest).2) := by
  rw [readFields, hname]
  simp only [h]
  rfl

lemma readFields_between {fields : List (String × Json)} (hne : fields ≠ [])
    (h : ∀ f ∈ fields, Spelled f.2) (hn : 2 * (between (fields.map fieldChars)).length < n) :
    readFields n (between (fields.map fieldChars) ++ '\x7d' :: rest) = (fields, some rest) := by
  induction fields generalizing n with
  | nil => exact absurd rfl hne
  | cons f fields ih =>
      obtain ⟨n, rfl⟩ := Nat.exists_eq_add_one.mpr (Nat.zero_lt_of_lt hn)
      obtain ⟨hf, hfields⟩ := List.forall_mem_cons.mp h
      have hname (rest : List Char) :
          readName (fieldChars f ++ rest) = some (f.1, f.2.chars ++ rest) := by
        simp only [fieldChars, List.append_assoc, List.cons_append]
        exact readName_quoted f.1 _
      have hlen : f.2.chars.length ≤ (fieldChars f).length := by
        simp only [fieldChars, List.length_append, List.length_cons]
        omega
      rw [List.map_cons] at hn ⊢
      by_cases hlast : fields = []
      · subst hlast
        rw [List.map_nil, between, List.intercalate_singleton] at hn ⊢
        exact readFields_last (hname _) (hf n _ (ends_cons (by simp)) (by omega))
      · have hparts : fields.map fieldChars ≠ [] := List.map_eq_nil_iff.not.mpr hlast
        rw [between_cons hparts, List.length_append, List.length_cons] at hn
        rw [between_cons hparts, List.append_assoc, List.cons_append,
          readFields_next (hname _) (hf n _ (ends_cons (by simp)) (by omega)),
          ih hlast hfields (by omega)]

lemma readValue_obj : readValue (n + 1) ('\x7b' :: '"' :: cs) =
    (obj (readFields n ('"' :: cs)).1, (readFields n ('"' :: cs)).2) := rfl

lemma spelled_obj {fields : List (String × Json)} (h : ∀ f ∈ fields, Spelled f.2) :
    Spelled (obj fields) := by
  intro n rest hrest hn
  rw [chars_obj, List.length_append, List.length_cons] at hn
  obtain ⟨n, rfl⟩ := Nat.exists_eq_add_one.mpr (show 0 < n by omega)
  rw [chars_obj, List.append_assoc]
  cases fields with
  | nil => rfl
  | cons f fields =>
      have hread : readFields n (between ((f :: fields).map fieldChars) ++ '\x7d' :: rest) =
          (f :: fields, some rest) :=
        readFields_between (List.cons_ne_nil f fields) h (by omega)
      rw [List.map_cons] at hread ⊢
      have hf : fieldChars f = '"' :: (f.1.toList.flatMap quoteChar ++ '"' :: ':' :: f.2.chars) :=
        rfl
      obtain ⟨ds, hds⟩ := exists_between (fields.map fieldChars) hf
      simp only [hds, List.cons_append, List.nil_append] at hread ⊢
      rw [readValue_obj, hread]

/-! #### All values -/

lemma chars_natural (m : Nat) : (int m).chars = toDigits 10 m := Nat.toList_repr

lemma chars_negative (m : Nat) : (int (Int.negSucc m)).chars = '-' :: toDigits 10 (m + 1) := by
  have hminus : (int (Int.negSucc m)).chars = ("-" ++ (m + 1).repr).toList := rfl
  rw [hminus, String.toList_append, Nat.toList_repr]
  rfl

lemma chars_str (s : String) : (str s).chars = '"' :: s.toList.flatMap quoteChar ++ ['"'] :=
  toList_quote s

lemma readValue_digit {d : Nat} (hd : d < 10) :
    readValue (n + 1) (digitChar d :: cs) = readNumber false (digitChar d :: cs) := by
  interval_cases d <;> rfl

lemma digitChar_starts : ∀ d < 10, isSpace (digitChar d) = false ∧ digitChar d ≠ ']' := by decide

lemma spelled_int {i : Int} (h : Fits i) : Spelled (int i) := by
  intro n rest hrest hn
  cases i with
  | ofNat m =>
      obtain ⟨d, hd, ds, hds, -⟩ := exists_toDigits m
      have hread := readNumber_natural h hrest
      have hchars : (int (Int.ofNat m)).chars = toDigits 10 m := chars_natural m
      rw [hds] at hread hchars
      rw [hchars, List.length_cons] at hn
      obtain ⟨n, rfl⟩ := Nat.exists_eq_add_one.mpr (show 0 < n by omega)
      rw [hchars, List.cons_append, readValue_digit hd]
      exact hread
  | negSucc m =>
      rw [chars_negative, List.length_cons] at hn
      obtain ⟨n, rfl⟩ := Nat.exists_eq_add_one.mpr (show 0 < n by omega)
      rw [chars_negative]
      exact readNumber_negative h hrest

lemma spelled_str (s : String) : Spelled (str s) := by
  intro n rest hrest hn
  rw [chars_str, List.cons_append, List.length_cons] at hn
  obtain ⟨n, rfl⟩ := Nat.exists_eq_add_one.mpr (show 0 < n by omega)
  rw [chars_str, List.append_assoc]
  exact readString_quoted s rest

lemma Plain.starts {j : Json} (h : Plain j) : Starts j := by
  cases h with
  | null => exact ⟨'n', _, rfl, by decide⟩
  | bool b => cases b <;> exact ⟨_, _, rfl, by decide⟩
  | @int i _ =>
      cases i with
      | ofNat m =>
          obtain ⟨d, hd, ds, hds, -⟩ := exists_toDigits m
          exact ⟨_, ds, (chars_natural m).trans hds, digitChar_starts d hd⟩
      | negSucc m => exact ⟨'-', _, chars_negative m, by decide⟩
  | str s => exact ⟨'"', _, chars_str s, by decide⟩
  | arr h => exact ⟨'[', _, chars_arr _, by decide⟩
  | obj h => exact ⟨'\x7b', _, chars_obj _, by decide⟩

lemma Plain.spelled {j : Json} (h : Plain j) : Spelled j := by
  induction h with
  | null =>
      intro n rest hrest hn
      obtain ⟨n, rfl⟩ := Nat.exists_eq_add_one.mpr (Nat.lt_of_lt_of_le (by decide) hn)
      rfl
  | bool b =>
      intro n rest hrest hn
      have hpos : 0 < 2 * (Json.bool b).chars.length := by cases b <;> decide
      obtain ⟨n, rfl⟩ := Nat.exists_eq_add_one.mpr (Nat.lt_of_lt_of_le hpos hn)
      cases b <;> rfl
  | int h => exact spelled_int h
  | str s => exact spelled_str s
  | arr h ih => exact spelled_arr fun j hj => ⟨ih j hj, (h j hj).starts⟩
  | obj _ ih => exact spelled_obj ih

/-- **A plain value is read from its own text.** -/
theorem ofText_compress {j : Json} (h : Plain j) : ofText j.compress = (j, true) := by
  have hread : readValue (2 * j.compress.toList.length + 2) (j.compress.toList ++ []) =
      (j, some []) := h.spelled _ [] nofun (Nat.le_add_right _ 2)
  rw [List.append_nil] at hread
  simp only [ofText, hread]
  rfl

end SwapPlan.Json

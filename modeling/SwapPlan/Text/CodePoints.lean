import SwapPlan.Hex

/-!
Sets of code points as closed ranges, and the text form in which tables are written: words with
hexadecimal ends, such as `41-5a` for a range and `aa` for a single code point.
-/

namespace SwapPlan

/-- Closed ranges of code points. -/
abbrev CodePoints := List (Nat × Nat)

namespace CodePoints

/-- The number that hexadecimal digits spell. -/
def hex (ds : List Char) : Nat := ds.foldl (fun n d => 16 * n + (Hex.value? d).getD 0) 0

/-- The parts of a text around a separator. -/
def split (sep : Char) : List Char → List (List Char)
  | [] => [[]]
  | c :: cs =>
    if c = sep then [] :: split sep cs
    else match split sep cs with
      | part :: parts => (c :: part) :: parts
      | [] => [[c]]

/-- The words between spaces and line ends. -/
def words (s : String) : List (List Char) :=
  (split ' ' (s.toList.map fun c => if c = '\n' then ' ' else c)).filter (· ≠ [])

/-- Both ends of a range, or a code point as both. -/
def ofWord (w : List Char) : Nat × Nat :=
  match split '-' w with
  | [lo, hi] => (hex lo, hex hi)
  | _ => (hex w, hex w)

def ofText (s : String) : CodePoints := (words s).map ofWord

def holds (r : CodePoints) (c : Char) : Bool :=
  r.any fun (lo, hi) => lo ≤ c.toNat && c.toNat ≤ hi

end CodePoints

end SwapPlan

/-!
JSON values as a reader meets them. A text that stops being JSON still has a value: what was
read until then, with `broken` in the place where it stops, so that a reader that goes through
the value in order finds the faults of a document in order.
-/

namespace SwapPlan

inductive Json
  | null
  | bool (value : Bool)
  | int (value : Int)
  | real (value : Float)
  | str (value : String)
  | arr (items : List Json)
  | obj (fields : List (String × Json))
  /-- A scalar that is written correctly but has no value. -/
  | unreadable
  /-- The place where the text stops being JSON. -/
  | broken

namespace Json

mutual

/-- The text of the value does not break off. -/
def isComplete : Json → Bool
  | broken => false
  | arr items => areComplete items
  | obj fields => fieldsComplete fields
  | _ => true

def areComplete : List Json → Bool
  | [] => true
  | j :: js => j.isComplete && areComplete js

def fieldsComplete : List (String × Json) → Bool
  | [] => true
  | (_, j) :: fs => j.isComplete && fieldsComplete fs

end

mutual

/-- All scalars have a value, and no array or object lies deeper than `depth` others. -/
def isReadable : (depth : Nat) → Json → Bool
  | _, broken | _, unreadable => false
  | 0, arr _ | 0, obj _ => false
  | d + 1, arr items => areReadable d items
  | d + 1, obj fields => fieldsReadable d fields
  | _, _ => true

def areReadable : (depth : Nat) → List Json → Bool
  | _, [] => true
  | d, j :: js => j.isReadable d && areReadable d js

def fieldsReadable : (depth : Nat) → List (String × Json) → Bool
  | _, [] => true
  | d, (_, j) :: fs => j.isReadable d && fieldsReadable d fs

end

end Json

end SwapPlan

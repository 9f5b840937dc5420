import SwapPlan.Json.Basic
import SwapPlan.Error

/-!
Reading records from JSON values. A record is an object with named fields, or an array of the
same fields in the order in which the record lists them. Of several faults the one that stands
first in the value counts; a missing field counts after all that is there.
-/

namespace SwapPlan.Json

/-- Why a value is not taken: it has the wrong form, or it denotes something that is refused. -/
inductive Fault
  | malformed
  | refused (cause : Error)

abbrev Read (α : Type) := Except Fault α

/-- What a record is read from. -/
inductive Parts
  | named (fields : List (String × Json))
  | listed (items : List Json)

/-- What an absent field means. -/
inductive Absence (α : Type)
  | required
  /-- The value of a field that may be left out of an object, but not of an array. -/
  | optional (value : α)
  | default (value : α)

/-- A reader for some fields of a record: their names, and their values from where the first of
them stands in an array. A fault comes with its place. -/
structure Record (α : Type) where
  names : List String
  read : (place : Nat) → Parts → Except (Nat × Fault) α

namespace Record

variable {α β : Type}

def at? (name : String) (fields : List (String × Json)) : Option (Json × Nat) :=
  (fields.zipIdx.find? fun (f, _) => f.1 = name).map fun (f, i) => (f.2, i)

/-- A single field. -/
def field (name : String) (absence : Absence α) (value : Json → Read α) : Record α where
  names := [name]
  read place parts :=
    let present (found : Json × Nat) : Except (Nat × Fault) α :=
      match value found.1 with
      | .ok a => .ok a
      | .error e => .error (found.2, e)
    match parts with
    | .named fields =>
      match at? name fields, absence with
      | some found, _ => present found
      | none, .optional a | none, .default a => .ok a
      | none, .required => .error (fields.length + place, .malformed)
    | .listed items =>
      match items[place]?, absence with
      | some item, _ => present (item, place)
      | none, .default a => .ok a
      | none, _ => .error (items.length + place, .malformed)

/-- One group of fields behind another. -/
def pair (a : Record α) (b : Record β) : Record (α × β) where
  names := a.names ++ b.names
  read place parts :=
    match a.read place parts, b.read (place + a.names.length) parts with
    | .ok x, .ok y => .ok (x, y)
    | .error e, .ok _ => .error e
    | .ok _, .error f => .error f
    | .error e, .error f => .error (if f.1 < e.1 then f else e)

def map (r : Record α) (f : α → β) : Record β where
  names := r.names
  read place parts := (r.read place parts).map f

instance : HMul (Record α) (Record β) (Record (α × β)) := ⟨fun a b => pair a b⟩

/-- The first part that does not belong: a field of the record that comes again, another field
whose text breaks off, or an item too many. -/
def intruder? (names : List String) : Parts → Option Nat
  | .listed items => if items.length > names.length then some names.length else none
  | .named fields => go [] 0 fields
where
  go (seen : List String) (i : Nat) : List (String × Json) → Option Nat
    | [] => none
    | (name, value) :: fields =>
      if name ∈ names then
        if name ∈ seen then some i else go (name :: seen) (i + 1) fields
      else if value.isComplete then go seen (i + 1) fields
      else some i

def ofParts (r : Record α) (parts : Parts) : Read α :=
  match r.read 0 parts, intruder? r.names parts with
  | .ok a, none => .ok a
  | .ok _, some _ => .error .malformed
  | .error (_, e), none => .error e
  | .error (i, e), some j => .error (if i < j then e else .malformed)

def ofJson (r : Record α) : Json → Read α
  | .obj fields => r.ofParts (.named fields)
  | .arr items => r.ofParts (.listed items)
  | _ => .error .malformed

end Record

/-- How the tag of a record may be written. -/
inductive TagForm
  /-- By its name alone. -/
  | named
  /-- By its name, or by its place among all names; this holds inside other tagged records. -/
  | numbered
deriving DecidableEq

/-- The name that a written tag stands for. -/
def TagForm.name? (form : TagForm) (names : List String) : Json → Option String
  | .str name => some name
  | .int i => if form = .numbered ∧ 0 ≤ i then names[i.toNat]? else none
  | _ => none

/-- The tag of a record and its other parts. In an array the tag comes first. -/
def tagged (form : TagForm) (names : List String) (tag : String) (j : Json) :
    Read (String × Parts) :=
  let parts : Option (Json × Parts) :=
    match j with
    | .obj fields =>
      match fields.filter fun f => f.1 = tag with
      | [(_, written)] => some (written, .named (fields.filter fun f => f.1 ≠ tag))
      | _ => none
    | .arr (written :: items) => some (written, .listed items)
    | _ => none
  match parts with
  | some (written, parts) =>
    match form.name? names written with
    | some name => .ok (name, parts)
    | none => .error .malformed
  | none => .error .malformed

/-! ### Plain values -/

/-- A whole number from zero to `max`. -/
def readNat (max : Nat) : Json → Read Nat
  | .int i => if 0 ≤ i ∧ i ≤ max then .ok i.toNat else .error .malformed
  | _ => .error .malformed

def readBool : Json → Read Bool
  | .bool b => .ok b
  | _ => .error .malformed

def readText : Json → Read String
  | .str s => .ok s
  | _ => .error .malformed

variable {α : Type}

/-- Null, or a value. -/
def nullable (value : Json → Read α) : Json → Read (Option α)
  | .null => .ok none
  | j => do return some (← value j)

def listOf (value : Json → Read α) : Json → Read (List α)
  | .arr items => items.mapM value
  | _ => .error .malformed

end SwapPlan.Json

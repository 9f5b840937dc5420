import SwapPlan.Ini
import SwapPlan.Json.Text
import SwapPlan.Json5
import SwapPlan.Ron
import SwapPlan.Toml.Text
import SwapPlan.Yaml.Text

/-!
Documents that hold settings, in six formats, which the extensions of their files tell apart.
-/

namespace SwapPlan.Settings

/-- What a document is written in. -/
inductive Format
  | toml | json | yaml | ini | ron | json5
deriving DecidableEq

namespace Format

def all : List Format := [.toml, .json, .yaml, .ini, .ron, .json5]

/-- The extensions of files in a format. -/
def extensions : Format → List String
  | .toml => ["toml"]
  | .json => ["json"]
  | .yaml => ["yaml", "yml"]
  | .ini => ["ini"]
  | .ron => ["ron"]
  | .json5 => ["json5"]

def ofExtension? (name : String) : Option Format := all.find? fun f => name ∈ f.extensions

end Format

mutual

/-- A JSON value as a setting. A whole number beyond 64 bits with a sign is a double. -/
def ofJson : Json → SettingValue
  | .bool b => .bool b
  | .int i => if i ≤ Int64.maxValue.toInt then .int i else .float i.toNat.toUInt64.toFloat
  | .real x => .float x
  | .str s => .text s
  | .arr items => .list (itemsOfJson items)
  | .obj fields => .table (fieldsOfJson fields)
  | _ => .null

def itemsOfJson : List Json → List SettingValue
  | [] => []
  | j :: js => ofJson j :: itemsOfJson js

def fieldsOfJson : List (String × Json) → List (String × SettingValue)
  | [] => []
  | (name, j) :: fs => (name, ofJson j) :: fieldsOfJson fs

end

/-- The fields of a document. A JSON document is an object, nested less than 128 deep. -/
def Format.fields? (text : String) : Format → Option (List (String × SettingValue))
  | .toml => Toml.ofText text
  | .json =>
    match Json.ofText text with
    | (.obj fields, true) =>
      if (Json.obj fields).isReadable 127 then some (fieldsOfJson fields) else none
    | _ => none
  | .yaml => Yaml.ofText text
  | .ini => Ini.ofText text
  | .ron => Ron.ofText text
  | .json5 => Json5.ofText text

end SwapPlan.Settings

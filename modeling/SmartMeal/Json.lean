/-
JSON values, and the conditional casts by which the app reads them.

Foundation hands a parsed text back as a tree of dictionaries, arrays, strings,
numbers and null.  A body is kept as what its bytes parse to; two bodies with the
same parse cannot be told apart by any function modelled here.
-/

import Mathlib.Data.Rat.Defs

namespace SmartMeal

inductive Json where
  | null
  | bool (value : Bool)
  | number (value : Rat)
  | string (text : String)
  | array (elements : List Json)
  | object (fields : List (String × Json))

abbrev Fields := List (String × Json)

/-- The bytes of a body: the JSON value they spell, if they spell one. -/
structure Data where
  json : Option Json

namespace Json

def asString : Json → Option String
  | .string text => some text
  | _ => none

/-- The integer a number stands for, where an `Int` of the platform can hold it. -/
def exactInt (value : Rat) : Option Int64 :=
  if value.den = 1 ∧ Int64.minValue.toInt ≤ value.num ∧ value.num ≤ Int64.maxValue.toInt then
    some (Int64.ofInt value.num)
  else none

/-- `as? Int`: an exactly representable number, or a boolean bridged to 0 or 1. -/
def asInt : Json → Option Int64
  | .number value => exactInt value
  | .bool value => some (if value then 1 else 0)
  | _ => none

def asDictionary : Json → Option Fields
  | .object fields => some fields
  | _ => none

/-- `as? [[String: Any]]`: one element of another type fails the whole cast. -/
def asDictionaries : Json → Option (List Fields)
  | .array elements => elements.mapM asDictionary
  | _ => none

def asStrings : Json → Option (List String)
  | .array elements => elements.mapM asString
  | _ => none

/-- `JSONSerialization` with no options: a text that is neither an array nor an
object is an error. -/
def jsonObject (data : Data) : Option Json :=
  match data.json with
  | some (.array elements) => some (.array elements)
  | some (.object fields) => some (.object fields)
  | _ => none

theorem exactInt_toInt (value : Int64) : exactInt (value.toInt : Rat) = some value := by
  have lower : Int64.minValue.toInt ≤ value.toInt := Int64.minValue_le_toInt value
  have upper : value.toInt ≤ Int64.maxValue.toInt := Int64.toInt_le value
  unfold exactInt
  rw [if_pos ⟨Rat.den_intCast _, by rwa [Rat.num_intCast], by rwa [Rat.num_intCast]⟩,
    Rat.num_intCast, Int64.ofInt_toInt]

end Json

end SmartMeal
